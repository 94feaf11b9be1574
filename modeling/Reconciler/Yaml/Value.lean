import Reconciler.Binary64.Basic
/-!
YAML values.  Unlike in JSON, a number may be infinite or no number at all, the keys of a mapping
are values of any kind, and a value may carry a local tag.
-/
namespace Reconciler.Yaml

/-- A number with a fraction. -/
inductive Float where
  | finite (value : Binary64)
  | infinite (negative : Bool)
  | nan
deriving DecidableEq

/-- Whether two numbers count as equal: the zeros do, and so do all that are no numbers. -/
def Float.same : Float → Float → Bool
  | .finite a, .finite b => a = b || (a.rank = 0 && b.rank = 0)
  | a, b => a = b

/-- A YAML value. -/
inductive Value where
  | null
  | bool (value : Bool)
  | int (value : Int)
  | float (value : Float)
  | str (value : String)
  | seq (items : List Value)
  | map (pairs : List (Value × Value))
  | tagged (tag : String) (value : Value)
deriving Inhabited

namespace Value

mutual

/-- Whether two values count as equal; the order of a mapping does not matter. -/
def same : Value → Value → Bool
  | .null, .null => true
  | .bool a, .bool b => a = b
  | .int a, .int b => a = b
  | .float a, .float b => a.same b
  | .str a, .str b => a = b
  | .seq a, .seq b => sameItems a b
  | .map a, .map b => a.length = b.length && included a b
  | .tagged s a, .tagged t b => s = t && same a b
  | _, _ => false

/-- Whether two lists count as equal. -/
def sameItems : List Value → List Value → Bool
  | [], [] => true
  | a :: as, b :: bs => same a b && sameItems as bs
  | _, _ => false

/-- Whether every pair of a mapping is in another one. -/
def included : List (Value × Value) → List (Value × Value) → Bool
  | [], _ => true
  | (key, value) :: pairs, others =>
    (others.any fun other => same key other.1 && same value other.2) && included pairs others

end

mutual

/-- Whether two values are one and the same, so that the order of a mapping matters. -/
def beq : Value → Value → Bool
  | .null, .null => true
  | .bool a, .bool b => a = b
  | .int a, .int b => a = b
  | .float a, .float b => a = b
  | .str a, .str b => a = b
  | .seq as, .seq bs => beqItems as bs
  | .map as, .map bs => beqPairs as bs
  | .tagged s a, .tagged t b => s = t && beq a b
  | _, _ => false

/-- Whether two lists are one and the same. -/
def beqItems : List Value → List Value → Bool
  | [], [] => true
  | a :: as, b :: bs => beq a b && beqItems as bs
  | _, _ => false

/-- Whether the pairs of two mappings are one and the same. -/
def beqPairs : List (Value × Value) → List (Value × Value) → Bool
  | [], [] => true
  | (k, a) :: as, (l, b) :: bs => beq k l && beq a b && beqPairs as bs
  | _, _ => false

end

mutual

theorem beq_iff : (a b : Value) → (a.beq b = true ↔ a = b)
  | .null, b => by cases b <;> simp [beq]
  | .bool _, b => by cases b <;> simp [beq]
  | .int _, b => by cases b <;> simp [beq]
  | .float _, b => by cases b <;> simp [beq]
  | .str _, b => by cases b <;> simp [beq]
  | .seq as, b => by cases b <;> simp [beq, beqItems_iff as]
  | .map as, b => by cases b <;> simp [beq, beqPairs_iff as]
  | .tagged _ a, b => by cases b <;> simp [beq, beq_iff a]

theorem beqItems_iff : (as bs : List Value) → (beqItems as bs = true ↔ as = bs)
  | [], bs => by cases bs <;> simp [beqItems]
  | a :: as, bs => by cases bs <;> simp [beqItems, beq_iff a, beqItems_iff as]

theorem beqPairs_iff : (as bs : List (Value × Value)) → (beqPairs as bs = true ↔ as = bs)
  | [], bs => by cases bs <;> simp [beqPairs]
  | (k, a) :: as, bs => by
      cases bs <;> simp [beqPairs, beq_iff k, beq_iff a, beqPairs_iff as, Prod.ext_iff, and_assoc]

end

instance : DecidableEq Value :=
  fun a b => decidable_of_iff _ (beq_iff a b)

/-- Whether there is nothing, whatever tags it carries. -/
def isNull : Value → Bool
  | .null => true
  | .tagged _ value => value.isNull
  | _ => false

/-- The value of a key of a mapping. -/
def get? (key : String) : Value → Option Value
  | .map pairs => (pairs.find? fun pair => pair.1.same (.str key)).map (·.2)
  | _ => none

end Value

end Reconciler.Yaml
