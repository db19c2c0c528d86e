/-
The fields of a response.

* `Response.id_put`, `session_put`, `isDone_put`: another field changes
  nothing about the id, the session and the end of a response.
* `Response.id_reply`, `session_reply`, `isDone_reply`: the start of a
  response to a request.
* `Response.isDone_withStatus`: a status ends a response just if it has
  `done` among its entries.
-/
import Mathlib.Tactic
import HostedRepl.Proofs.Wire.Fields
import HostedRepl.Wire.Message

namespace HostedRepl.Wire

lemma Value.text?_text (s : String) : (Value.text s).text? = some s := Bytes.text?_ofText s

/-- The texts of different entries differ. -/
lemma Status.text_injective : Function.Injective Status.text := by
  intro s t
  cases s <;> cases t <;> decide

namespace Response

variable {r : Response} {key : String} {v : Value}

/-! ### One more field -/

lemma id_put (h : key ≠ "id") : (r.put key v).id = r.id := by
  rw [id, put, Fields.field?_put, if_neg (Ne.symm h)]
  rfl

lemma session_put (h : key ≠ "session") : (r.put key v).session = r.session := by
  rw [session, put, Fields.text?, Fields.field?_put, if_neg (Ne.symm h)]
  rfl

lemma isDone_put (h : key ≠ "status") : (r.put key v).isDone = r.isDone := by
  rw [isDone, hasStatus, status, put, Fields.field?_put, if_neg (Ne.symm h)]
  rfl

/-! ### The start of a response -/

lemma id_reply (id : Option Value) (session : Option String) : (reply id session).id = id := by
  cases id with
  | none =>
      cases session with
      | none => rfl
      | some s => exact id_put (by decide)
  | some v =>
      have first : (empty.put "id" v).id = some v := by
        rw [Response.id, put, Fields.field?_put, if_pos rfl]
      cases session with
      | none => exact first
      | some s => exact (id_put (by decide)).trans first

lemma session_reply (id : Option Value) (s : String) : (reply id (some s)).session = some s := by
  have last (r : Response) : (r.putText "session" s).session = some s := by
    rw [putText, session, put, Fields.text?, Fields.field?_put, if_pos rfl]
    exact Value.text?_text s
  cases id <;> exact last _

lemma isDone_reply (id : Option Value) (session : Option String) :
    (reply id session).isDone = false := by
  cases id with
  | none =>
      cases session with
      | none => rfl
      | some s => exact isDone_put (by decide)
  | some v =>
      have first : (empty.put "id" v).isDone = false := isDone_put (by decide)
      cases session with
      | none => exact first
      | some s => exact (isDone_put (by decide)).trans first

/-! ### The status -/

lemma status_withStatus (entries : List Status) :
    (r.withStatus entries).status = entries.map Status.text := by
  rw [status, withStatus, put, Fields.field?_put, if_pos rfl]
  simp [Value.list?, Value.texts, Value.text?_text, Function.comp_def]

/-- **A status ends a response** just if `done` is among its entries. -/
theorem isDone_withStatus {entries : List Status} :
    (r.withStatus entries).isDone = true ↔ .done ∈ entries := by
  rw [isDone, hasStatus, status_withStatus, List.contains_iff_mem,
    List.mem_map_of_injective Status.text_injective]

end Response

end HostedRepl.Wire
