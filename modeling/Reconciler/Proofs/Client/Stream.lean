import Mathlib
import Reconciler.Client.Batch
import Reconciler.Proofs.Object.Stream
import Reconciler.Proofs.Text.Utf8
/-!
Work on the objects of a file.  All of them are read before anything is done, so that a client is
called for none of them if one document is no object; otherwise the work is that for a list of
objects.
-/
namespace Reconciler.Client

variable {σ α : Type} {client : Client σ} {error : StreamError} {objects : List Object}

theorem on_reading_error (next : List Object → Action σ α) (state : σ) :
    (reading (.error error) next).on state = (.error (.read error), state) := rfl

theorem reading_ok (next : List Object → Action σ α) :
    reading (.ok objects) next = next objects := rfl

/-- Nothing is done, and the error is the one for which the objects could not be read. -/
structure Refuses (client : Client σ) (read : Except StreamError (List Object))
    (error : StreamError) (state : σ) : Prop where
  create : ∀ params, (client.createRead read params).on state = (.error (.read error), state)
  get : (client.getRead read).on state = (.error (.read error), state)
  patch : ∀ provider params,
    (client.patchRead read provider params).on state = (.error (.read error), state)
  delete : ∀ params, (client.deleteRead read params).on state = (.error (.read error), state)

/-- The work is that for the list of the objects.  To get or to patch them, requests are made of
all of them first; if that fails for one, nothing is done. -/
structure Handles (client : Client σ) (read : Except StreamError (List Object))
    (objects : List Object) : Prop where
  create : ∀ params, client.createRead read params = client.createMultiple objects params
  get : (∃ requests, objects.mapM (GetRequest.ofObject client.scheme .dynamic) = .ok requests ∧
      client.getRead read = client.getMultiple requests) ∨
    ∃ error, objects.mapM (GetRequest.ofObject client.scheme .dynamic) = .error error ∧
      ∀ state, (client.getRead read).on state = (.error (.scheme error), state)
  patch : ∀ provider params,
    (∃ requests, objects.mapM (PatchRequest.provided provider) = .ok requests ∧
      client.patchRead read provider params = client.patchMultiple requests params) ∨
    ∃ error, objects.mapM (PatchRequest.provided provider) = .error error ∧
      ∀ state, (client.patchRead read provider params).on state = (.error error, state)
  delete : ∀ params, client.deleteRead read params = client.deleteMultiple objects params

theorem refuses_error (client : Client σ) (error : StreamError) (state : σ) :
    Refuses client (.error error) error state := by
  constructor
  · intro params
    exact on_reading_error _ state
  · exact on_reading_error _ state
  · intro provider params
    exact on_reading_error _ state
  · intro params
    exact on_reading_error _ state

theorem handles_ok (client : Client σ) (objects : List Object) :
    Handles client (.ok objects) objects := by
  constructor
  · intro params
    exact reading_ok _
  · have hget : client.getRead (.ok objects) =
        Action.ofScheme (objects.mapM (GetRequest.ofObject client.scheme .dynamic)) >>=
          client.getMultiple := reading_ok _
    rcases hrequests : objects.mapM (GetRequest.ofObject client.scheme .dynamic) with
      error | requests
    · refine .inr ⟨error, rfl, fun state => ?_⟩
      rw [hget, hrequests]
      rfl
    · refine .inl ⟨requests, rfl, ?_⟩
      rw [hget, hrequests]
      rfl
  · intro provider params
    have hpatch : client.patchRead (.ok objects) provider params =
        Attempt.ofExcept (objects.mapM (PatchRequest.provided provider)) >>=
          (client.patchMultiple · params) := reading_ok _
    rcases hrequests : objects.mapM (PatchRequest.provided provider) with error | requests
    · refine .inr ⟨error, rfl, fun state => ?_⟩
      rw [hpatch, hrequests]
      rfl
    · refine .inl ⟨requests, rfl, ?_⟩
      rw [hpatch, hrequests]
      rfl
  · intro params
    exact reading_ok _

/-- What a file is read as: the objects of the text that its octets write, if there is one. -/
structure ReadsFile (path : String) : Prop where
  text : ∀ text, Object.readAt path (.ok (Text.Utf8.encode text)) = Object.read text
  invalid : ∀ octets, (∀ text, octets ≠ Text.Utf8.encode text) →
    Object.readAt path (.ok octets) = .error (.file path .invalidUtf8)
  failed : ∀ error, Object.readAt path (.error error) = .error (.file path error)

theorem readsFile (path : String) : ReadsFile path where
  text text := by
    have hdecode : Text.Utf8.decode? (Text.Utf8.encode text) = some text :=
      Text.Utf8.decode?_eq_some_iff.2 rfl
    simp only [Object.readAt, hdecode]
  invalid octets hoctets := by
    have hdecode := Text.Utf8.decode?_eq_none_iff.2 hoctets
    simp only [Object.readAt, hdecode]
  failed _ := rfl

/-- A stream of documents is read as a whole or not at all, and what is done with its objects is
done for all of them or not even begun. -/
theorem reads_all_or_nothing (client : Client σ) (path : String) :
    (∀ documents objects, Object.ofDocuments 0 documents = .ok objects ↔
      (∀ error, .error error ∉ documents) ∧
        List.Forall₂ Object.Describes (Object.held documents) objects) ∧
    (∀ documents error, Object.ofDocuments 0 documents = .error error ↔
      Object.FirstOffence 0 documents error) ∧
    (∀ text, Object.read text = Object.ofDocuments 0 (Yaml.Value.documents text)) ∧
    ReadsFile path ∧ ∀ content,
      (∃ objects, Object.readAt path content = .ok objects ∧
        Handles client (Object.readAt path content) objects) ∨
      ∃ error, Object.readAt path content = .error error ∧
        ∀ state, Refuses client (Object.readAt path content) error state := by
  refine ⟨fun documents objects => Object.ofDocuments_eq_ok_iff,
    fun documents error => Object.ofDocuments_eq_error_iff, fun text => rfl, readsFile path,
    fun content => ?_⟩
  rcases Object.readAt path content with error | objects
  · exact .inr ⟨error, rfl, refuses_error client error⟩
  · exact .inl ⟨objects, rfl, handles_ok client objects⟩

end Reconciler.Client
