import Mathlib
import Reconciler.Attempt
import Reconciler.Object.Stream
/-!
Reading a stream of documents: everything or nothing.  Every document that is not null becomes one
object, in the order of the documents.  The first document that is none decides the error, which
counts all documents before it, the null ones among them.
-/
namespace Reconciler.Object

/-- A field that holds a text, which is not empty. -/
def HasText (fields : List (String × Json)) (name : String) : Prop :=
  ∃ text, Entries.get? name fields = some (.str text) ∧ text ≠ ""

/-- A document is a mapping with a JSON form, which says of what kind it is and reads as the
object. -/
inductive Describes : Yaml.Value → Object → Prop
  | intro {pairs : List (Yaml.Value × Yaml.Value)} {fields : List (String × Json)}
      {object : Object} (json : (Yaml.Value.map pairs).toJson? = some (.obj fields))
      (apiVersion : HasText fields "apiVersion") (kind : HasText fields "kind")
      (decoded : decode? (.obj fields) = some object) : Describes (.map pairs) object

/-- The first thing that keeps a document from being an object. -/
inductive Lacks (document : Yaml.Value) : InvalidObject → Prop
  | json (json : document.toJson? = none) : Lacks document .notJson
  | fields {value : Json} (json : document.toJson? = some value)
      (fields : ∀ fields, value ≠ .obj fields) : Lacks document .notAnObject
  | apiVersion {fields : List (String × Json)} (json : document.toJson? = some (.obj fields))
      (apiVersion : ¬ HasText fields "apiVersion") : Lacks document (.missing "apiVersion")
  | kind {fields : List (String × Json)} (json : document.toJson? = some (.obj fields))
      (apiVersion : HasText fields "apiVersion") (kind : ¬ HasText fields "kind") :
      Lacks document (.missing "kind")
  | decoded {fields : List (String × Json)} (json : document.toJson? = some (.obj fields))
      (apiVersion : HasText fields "apiVersion") (kind : HasText fields "kind")
      (decoded : decode? (.obj fields) = none) : Lacks document .malformed

variable {document : Yaml.Value} {object : Object} {reason : InvalidObject}
  {fields : List (String × Json)} {name : String}

theorem required_of_hasText (h : HasText fields name) : required fields name = .ok () := by
  obtain ⟨text, hget, hne⟩ := h
  have hempty : text.isEmpty = false := by rw [String.isEmpty_eq_false_iff]; exact hne
  rw [required, hget]
  simp only [hempty, Bool.false_eq_true, if_false]

theorem required_of_not_hasText (h : ¬ HasText fields name) :
    required fields name = .error (.missing name) := by
  rw [required]
  split
  next text hget =>
    have hempty : text = "" := by
      by_contra hne
      exact h ⟨text, hget, hne⟩
    rw [if_pos (String.isEmpty_iff.2 hempty)]
  next => rfl

theorem ofDocument_of_describes (h : Describes document object) :
    ofDocument document = .ok object := by
  obtain ⟨json, apiVersion, kind, decoded⟩ := h
  rw [ofDocument, json]
  simp only [required_of_hasText apiVersion, required_of_hasText kind, decoded]
  rfl

theorem ofDocument_of_lacks (h : Lacks document reason) : ofDocument document = .error reason := by
  cases h with
  | json json => rw [ofDocument, json]
  | @fields value json fields =>
      cases value with
      | obj pairs => exact absurd rfl (fields pairs)
      | _ => rw [ofDocument, json]
  | apiVersion json apiVersion =>
      rw [ofDocument, json]
      simp only [required_of_not_hasText apiVersion]
      rfl
  | kind json apiVersion kind =>
      rw [ofDocument, json]
      simp only [required_of_hasText apiVersion, required_of_not_hasText kind]
      rfl
  | decoded json apiVersion kind decoded =>
      rw [ofDocument, json]
      simp only [required_of_hasText apiVersion, required_of_hasText kind, decoded]
      rfl

/-- A tagged value has one field, whose name is no name of an object's field. -/
theorem exists_pairs_of_hasText (hjson : document.toJson? = some (.obj fields))
    (h : HasText fields "apiVersion") : ∃ pairs, document = .map pairs := by
  cases document with
  | map pairs => exact ⟨pairs, rfl⟩
  | tagged tag value =>
      obtain ⟨text, hget, -⟩ := h
      obtain ⟨json, -, hfields⟩ := Option.bind_eq_some_iff.1 hjson
      obtain rfl : Entries.ofList [("!" ++ tag, json)] = fields :=
        Json.obj.inj (Option.some.inj hfields)
      obtain ⟨value, hmem⟩ := Entries.isSome_get?_iff.1 (Option.isSome_iff_exists.2 ⟨_, hget⟩)
      have hentry := List.mem_singleton.1 (Entries.mem_of_mem_ofList hmem)
      have hname : "apiVersion" = "!" ++ tag := congrArg Prod.fst hentry
      have hhead := congrArg (fun name => name.toList.head?) hname
      simp at hhead
  | seq items =>
      obtain ⟨json, -, hnone⟩ := Option.map_eq_some_iff.1 hjson
      cases hnone
  | float value =>
      cases value <;> cases hjson
  | _ => cases hjson

theorem describes_or_lacks (document : Yaml.Value) :
    (∃ object, Describes document object) ∨ ∃ reason, Lacks document reason := by
  rcases hjson : document.toJson? with _ | json
  · exact .inr ⟨_, .json hjson⟩
  · by_cases hobj : ∀ fields, json ≠ .obj fields
    · exact .inr ⟨_, .fields hjson hobj⟩
    · obtain ⟨fields, rfl⟩ : ∃ fields, json = .obj fields := by simpa using hobj
      by_cases hversion : HasText fields "apiVersion"
      · by_cases hkind : HasText fields "kind"
        · rcases hdecoded : decode? (.obj fields) with _ | object
          · exact .inr ⟨_, .decoded hjson hversion hkind hdecoded⟩
          · obtain ⟨pairs, rfl⟩ := exists_pairs_of_hasText hjson hversion
            exact .inl ⟨object, .intro hjson hversion hkind hdecoded⟩
        · exact .inr ⟨_, .kind hjson hversion hkind⟩
      · exact .inr ⟨_, .apiVersion hjson hversion⟩

variable {documents : List (Except Yaml.Error Yaml.Value)} {index : Nat} {objects : List Object}
  {error : StreamError}

/-- The documents that hold something. -/
def held (documents : List (Except Yaml.Error Yaml.Value)) : List Yaml.Value :=
  documents.filterMap fun
    | .ok document => if document.isNull then none else some document
    | .error _ => none

/-- There is nothing wrong with a document: it is null or describes an object. -/
def Passes (document : Except Yaml.Error Yaml.Value) : Prop :=
  ∃ value, document = .ok value ∧ (value.isNull = true ∨ ∃ object, Describes value object)

/-- What is wrong with a document that has the given index. -/
inductive Offends (index : Nat) : Except Yaml.Error Yaml.Value → StreamError → Prop
  | parse (error : Yaml.Error) : Offends index (.error error) .parse
  | invalidObject {document : Yaml.Value} {reason : InvalidObject}
      (held : document.isNull = false) (lacks : Lacks document reason) :
      Offends index (.ok document) (.invalidObject index reason)

/-- The first document with which something is wrong, where `index` documents came before. -/
def FirstOffence (index : Nat) (documents : List (Except Yaml.Error Yaml.Value))
    (error : StreamError) : Prop :=
  ∃ front document back, documents = front ++ document :: back ∧
    (∀ document ∈ front, Passes document) ∧ Offends (index + front.length) document error

theorem held_cons_of_null (hnull : document.isNull = true) :
    held (.ok document :: documents) = held documents := by
  simp [held, hnull]

theorem held_cons (hheld : document.isNull = false) :
    held (.ok document :: documents) = document :: held documents := by
  simp [held, hheld]

theorem ofDocuments_cons_of_null (hnull : document.isNull = true) :
    ofDocuments index (.ok document :: documents) = ofDocuments (index + 1) documents := by
  rw [ofDocuments, if_pos hnull]

theorem ofDocuments_cons_of_describes (hheld : document.isNull = false)
    (h : Describes document object) :
    ofDocuments index (.ok document :: documents) =
      (ofDocuments (index + 1) documents).map (object :: ·) := by
  rw [ofDocuments, hheld, ofDocument_of_describes h]
  rfl

theorem ofDocuments_cons_of_lacks (hheld : document.isNull = false) (h : Lacks document reason) :
    ofDocuments index (.ok document :: documents) = .error (.invalidObject index reason) := by
  rw [ofDocuments, hheld, ofDocument_of_lacks h]
  rfl

theorem Describes.not_lacks (h : Describes document object) : ¬ Lacks document reason := by
  intro hlacks
  have hboth := (ofDocument_of_describes h).symm.trans (ofDocument_of_lacks hlacks)
  cases hboth

theorem Lacks.unique {other : InvalidObject} (h : Lacks document reason)
    (hother : Lacks document other) : other = reason :=
  Except.error.inj ((ofDocument_of_lacks hother).symm.trans (ofDocument_of_lacks h))

variable {first : Except Yaml.Error Yaml.Value}

theorem Offends.not_passes (h : Offends index first error) : ¬ Passes first := by
  rintro ⟨value, rfl, hnull | ⟨object, hdescribes⟩⟩
  · cases h with
    | invalidObject hheld _ => exact absurd hnull (hheld ▸ Bool.false_ne_true)
  · cases h with
    | invalidObject _ hlacks => exact hdescribes.not_lacks hlacks

theorem Offends.unique {other : StreamError} (h : Offends index first error)
    (hother : Offends index first other) : other = error := by
  cases h with
  | parse => cases hother; rfl
  | invalidObject _ hlacks =>
      cases hother with
      | invalidObject _ hother => rw [hlacks.unique hother]

/-- A document that passes is read past. -/
theorem firstOffence_cons_iff (hfirst : Passes first) :
    FirstOffence index (first :: documents) error ↔ FirstOffence (index + 1) documents error := by
  constructor
  · rintro ⟨front, offender, back, hdocuments, hfront, hoffends⟩
    cases front with
    | nil =>
        obtain ⟨rfl, -⟩ := List.cons.inj hdocuments
        exact absurd hfirst hoffends.not_passes
    | cons head front =>
        obtain ⟨-, rfl⟩ := List.cons.inj hdocuments
        have hcount : index + (head :: front).length = index + 1 + front.length := by
          simp only [List.length_cons]
          omega
        exact ⟨front, offender, back, rfl, fun item hitem => hfront item (.tail _ hitem),
          hcount ▸ hoffends⟩
  · rintro ⟨front, offender, back, rfl, hfront, hoffends⟩
    have hcount : index + 1 + front.length = index + (first :: front).length := by
      simp only [List.length_cons]
      omega
    exact ⟨first :: front, offender, back, rfl, List.forall_mem_cons.2 ⟨hfirst, hfront⟩,
      hcount ▸ hoffends⟩

/-- Nothing behind a document that is none matters. -/
theorem firstOffence_cons_of_offends {found : StreamError} (hfirst : Offends index first found) :
    FirstOffence index (first :: documents) error ↔ found = error := by
  constructor
  · rintro ⟨front, offender, back, hdocuments, hfront, hoffends⟩
    cases front with
    | nil =>
        obtain ⟨rfl, -⟩ := List.cons.inj hdocuments
        exact hoffends.unique hfirst
    | cons head front =>
        obtain ⟨rfl, -⟩ := List.cons.inj hdocuments
        exact absurd (hfront first (.head _)) hfirst.not_passes
  · rintro rfl
    exact ⟨[], first, documents, rfl, by simp, hfirst⟩

/-- Documents are read if all of them can be parsed and each that is not null describes an object;
these are the objects, one for each and in their order. -/
theorem ofDocuments_eq_ok_iff :
    ofDocuments index documents = .ok objects ↔
      (∀ error, .error error ∉ documents) ∧ List.Forall₂ Describes (held documents) objects := by
  induction documents generalizing index objects with
  | nil =>
      constructor
      · intro hok
        obtain rfl : [] = objects := Except.ok.inj hok
        exact ⟨by simp, .nil⟩
      · rintro ⟨-, hall⟩
        cases hall
        rfl
  | cons first rest ih =>
      rcases first with failed | document
      · constructor
        · intro hok
          cases hok
        · rintro ⟨hparsed, -⟩
          exact absurd (.head _) (hparsed failed)
      · have hparsed : (∀ error, .error error ∉ Except.ok document :: rest) ↔
            ∀ error, .error error ∉ rest := by simp
        rw [hparsed]
        rcases hnull : document.isNull with _ | _
        · rw [held_cons hnull]
          rcases describes_or_lacks document with ⟨object, hdescribes⟩ | ⟨reason, hlacks⟩
          · rw [ofDocuments_cons_of_describes hnull hdescribes, Except.map_eq_ok_iff]
            constructor
            · rintro ⟨others, hothers, rfl⟩
              obtain ⟨hrest, hall⟩ := ih.1 hothers
              exact ⟨hrest, .cons hdescribes hall⟩
            · rintro ⟨hrest, hall⟩
              obtain ⟨found, others, hfound, hothers, rfl⟩ := List.forall₂_cons_left_iff.1 hall
              obtain rfl : object = found := Except.ok.inj
                ((ofDocument_of_describes hdescribes).symm.trans (ofDocument_of_describes hfound))
              exact ⟨others, ih.2 ⟨hrest, hothers⟩, rfl⟩
          · rw [ofDocuments_cons_of_lacks hnull hlacks]
            constructor
            · intro hok
              cases hok
            · rintro ⟨-, hall⟩
              obtain ⟨found, others, hfound, -⟩ := List.forall₂_cons_left_iff.1 hall
              exact absurd hlacks hfound.not_lacks
        · rw [held_cons_of_null hnull, ofDocuments_cons_of_null hnull, ih]

/-- Documents are not read exactly if something is wrong with one, and the first such decides. -/
theorem ofDocuments_eq_error_iff :
    ofDocuments index documents = .error error ↔ FirstOffence index documents error := by
  induction documents generalizing index with
  | nil =>
      constructor
      · intro herror
        cases herror
      · rintro ⟨front, offender, back, hdocuments, -⟩
        simp at hdocuments
  | cons first rest ih =>
      rcases first with failed | document
      · rw [firstOffence_cons_of_offends (.parse failed), ofDocuments, Except.error.injEq]
      · rcases hnull : document.isNull with _ | _
        · rcases describes_or_lacks document with ⟨object, hdescribes⟩ | ⟨reason, hlacks⟩
          · rw [firstOffence_cons_iff ⟨document, rfl, .inr ⟨object, hdescribes⟩⟩,
              ofDocuments_cons_of_describes hnull hdescribes, Except.map_eq_error_iff, ih]
          · rw [firstOffence_cons_of_offends (.invalidObject hnull hlacks),
              ofDocuments_cons_of_lacks hnull hlacks, Except.error.injEq]
        · rw [firstOffence_cons_iff ⟨document, rfl, .inl hnull⟩, ofDocuments_cons_of_null hnull, ih]

end Reconciler.Object
