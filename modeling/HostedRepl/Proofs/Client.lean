/-
What a client reads.

A client that waits for the answer to a request reads frames up to the last one
of the answer, and leaves out the frames of others. The stream then stands right
after that frame, so the next answer can be read.

* `Response.Ends`: a response is the last one to a request; `Response.isDone_iff`.
* `Answered`: a frame is the first in a stream that ends an answer; `fault`: the
  error that is met without one.
* `collect_of_leaves`, `collect_of_unanswered`: what the client reads, frame by
  frame, and `request_of_answered`, `request_of_unanswered`: for one request.
* `requestAll`, `ids`: requests in a row and their ids; `automatic_eq`,
  `nodup_automatic`: ids that the client gives are numbers in a row.
* `IsAnswer`, `among`: answers, and the frames of a stream that belong to them;
  `requestAll_of_answers`: each request gets its answer.
* `client_exact`: **the client returns exactly its own frames**.
-/
import HostedRepl.Client
import HostedRepl.Proofs.Wire.Extent
import HostedRepl.Proofs.Wire.Message
import HostedRepl.Proofs.Wire.Stream

namespace HostedRepl

open Wire

namespace Wire

/-! ### The last response of an answer -/

lemma Value.text?_eq_some {v : Value} {s : String} : v.text? = some s ↔ v = .text s := by
  constructor
  · intro h
    cases v with
    | bytes b => exact congrArg Value.bytes (Bytes.ofText_of_text? h).symm
    | int | list | dict => cases h
  · rintro rfl
    exact Bytes.text?_ofText s

/-- The response is the last one to a request: it has the request's id, and `done` is in its
status. -/
structure Response.Ends (id : Value) (q : Response) : Prop where
  id : q.id = some id
  done : ∃ items, q.fields.field? "status" = some (.list items) ∧ Value.text "done" ∈ items

lemma Response.isDone_iff {q : Response} : q.isDone = true ↔
    ∃ items, q.fields.field? "status" = some (.list items) ∧ Value.text "done" ∈ items := by
  have listed : q.isDone = true ↔ "done" ∈ q.status := List.contains_iff_mem
  rw [listed, status]
  cases field : q.fields.field? "status" with
  | none => simp
  | some v =>
      cases v with
      | list items =>
          simp [Value.list?, Value.text?_eq_some]
      | int | bytes | dict => simp [Value.list?]

lemma Response.ends_iff {id : Value} {q : Response} :
    q.Ends id ↔ q.id = some id ∧ q.isDone = true := by
  rw [isDone_iff]
  exact ⟨fun h => ⟨h.id, h.done⟩, fun h => ⟨h.1, h.2⟩⟩

/-- In a stream, the frame `q`, which ends at `n`, is the first that ends the answer to a request.
The frames before it are the dictionaries `qs`. -/
structure Answered (id : Value) (b : Bytes) (qs : List Response) (q : Response) (n : ℕ) : Prop where
  frames : ∃ before after, (frames b).1 = before ++ (q.toValue, n) :: after ∧
    before.map Prod.fst = qs.map Response.toValue
  earlier : ∀ p ∈ qs, ¬ p.Ends id
  last : q.Ends id

namespace Answered

variable {id : Value} {b : Bytes} {p q : Response} {qs : List Response} {n : ℕ}

/-- A frame that ends the answer at once. -/
lemma here (read : (decode b).result = .ok q.toValue) (last : q.Ends id) :
    Answered id b [] q (decode b).consumed where
  frames := ⟨[], _, congrArg Prod.fst (frames_of_ok read), rfl⟩
  earlier := by simp
  last := last

/-- A frame before the answer. -/
lemma later (read : (decode b).result = .ok p.toValue) (other : ¬ p.Ends id)
    (h : Answered id (decode b).rest qs q n) :
    Answered id b (p :: qs) q ((decode b).consumed + n) where
  frames := by
    obtain ⟨before, after, split, dicts⟩ := h.frames
    refine ⟨(p.toValue, (decode b).consumed) :: before.map (shift (decode b).consumed),
      after.map (shift (decode b).consumed), ?_, ?_⟩
    · rw [frames_of_ok read, split, List.map_append, List.map_cons]
      rfl
    · rw [List.map_cons, List.map_cons, List.map_map, ← dicts]
      rfl
  earlier := by
    intro r hr
    rcases List.mem_cons.mp hr with rfl | hr
    · exact other
    · exact h.earlier r hr
  last := h.last

/-- The stream is read up to the end of the answer. -/
lemma leaves (h : Answered id b qs q n) :
    Leaves b (qs.map Response.toValue ++ [q.toValue]) (b.drop n) := by
  obtain ⟨before, after, split, dicts⟩ := h.frames
  rw [← dicts]
  exact leaves_of_frames split

end Answered

/-- The error that is met when the frames of a stream are read as dictionaries to the end. -/
def fault (b : Bytes) : DecodeError :=
  if (frames b).1.all fun f => f.1.dict?.isSome then (frames b).2 else .notADict

section

variable {b : Bytes} {v : Value} {q : Response} {e : DecodeError}

lemma fault_of_error (failed : (decode b).result = .error e) : fault b = e := by
  rw [fault, frames_of_error failed]
  rfl

lemma fault_of_other (read : (decode b).result = .ok v) (other : v.dict? = none) :
    fault b = .notADict := by
  rw [fault, frames_of_ok read]
  simp [other]

lemma fault_of_response (read : (decode b).result = .ok q.toValue) :
    fault b = fault (decode b).rest := by
  rw [fault, frames_of_ok read, fault, List.all_cons, List.all_map]
  rfl

end

end Wire

namespace Client

/-! ### Reading one answer -/

variable {c : Client} {id v : Wire.Value} {q : Response} {qs : List Response} {n : ℕ}
  {e : DecodeError}

/-- The client with these bytes left to read. -/
def leaving (c : Client) (rest : Bytes) : Client := { c with incoming := rest }

lemma receive_of_response (read : (decode c.incoming).result = .ok q.toValue) :
    c.receive = (.ok q, c.leaving (decode c.incoming).rest) := by
  rw [receive, read]
  rfl

lemma receive_of_error (failed : (decode c.incoming).result = .error e) :
    c.receive = (.error e, c.leaving (decode c.incoming).rest) := by
  rw [receive, failed]
  rfl

/-- A frame that is no dictionary is no response. -/
lemma receive_of_other (read : (decode c.incoming).result = .ok v) (other : v.dict? = none) :
    c.receive = (.error .notADict, c.leaving (decode c.incoming).rest) := by
  rw [receive, read]
  cases v with
  | dict fields => cases other
  | int | bytes | list => rfl

/-- The responses with an id. -/
def own (id : Wire.Value) (qs : List Response) : List Response := qs.filter fun q => q.id = some id

lemma own_append (id : Wire.Value) (ps qs : List Response) :
    own id (ps ++ qs) = own id ps ++ own id qs := List.filter_append ..

/-- A response that ends the answer is the last to be read. -/
lemma collect_of_ends {steps : ℕ} (read : (decode c.incoming).result = .ok q.toValue)
    (last : q.Ends id) :
    collect id (steps + 1) c = (.ok [q], c.leaving (decode c.incoming).rest) := by
  obtain ⟨same, done⟩ := Response.ends_iff.mp last
  rw [collect, receive_of_response read]
  dsimp only
  rw [if_pos same, if_pos done]

/-- Another response is kept if it has the id, and reading goes on. -/
lemma collect_of_other {steps : ℕ} (read : (decode c.incoming).result = .ok q.toValue)
    (other : ¬ q.Ends id) :
    collect id (steps + 1) c =
      ((collect id steps (c.leaving (decode c.incoming).rest)).1.map (own id [q] ++ ·),
        (collect id steps (c.leaving (decode c.incoming).rest)).2) := by
  rw [collect, receive_of_response read]
  dsimp only
  by_cases same : q.id = some id
  · have more : q.isDone = false := by
      rw [Response.ends_iff, not_and, Bool.not_eq_true] at other
      exact other same
    have kept : own id [q] = [q] := by simp [own, same]
    rw [if_pos same, more, if_neg Bool.false_ne_true, kept]
    rfl
  · have left : own id [q] = [] := by simp [own, same]
    have unchanged (x : Except DecodeError (List Response)) : x.map (own id [q] ++ ·) = x := by
      rw [left]
      cases x <;> rfl
    rw [if_neg same, unchanged]

/-- **The answer is what is returned**, and the stream is left right after it. -/
lemma collect_of_leaves {steps : ℕ} {left : Bytes} (enough : c.incoming.length < steps)
    (leaves : Leaves c.incoming (qs.map Response.toValue ++ [q.toValue]) left)
    (earlier : ∀ p ∈ qs, ¬ p.Ends id) (last : q.Ends id) :
    collect id steps c = (.ok (own id (qs ++ [q])), c.leaving left) := by
  induction steps generalizing c qs with
  | zero => exact absurd enough (Nat.not_lt_zero _)
  | succ steps ih =>
      cases qs with
      | nil =>
          cases leaves with
          | cons read rest =>
              cases rest
              have kept : own id [q] = [q] := by simp [own, last.id]
              rw [collect_of_ends read last, List.nil_append, kept]
      | cons p ps =>
          cases leaves with
          | cons read rest =>
              have shorter := (decode_rest read).2
              have further := @ih (c.leaving (decode c.incoming).rest) ps
                (Nat.lt_of_lt_of_le shorter (Nat.le_of_lt_succ enough)) rest
                fun p hp => earlier p (List.mem_cons_of_mem _ hp)
              have apart : own id (p :: (ps ++ [q])) = own id [p] ++ own id (ps ++ [q]) :=
                own_append id [p] (ps ++ [q])
              rw [collect_of_other read (earlier p (by simp)), further, List.cons_append, apart]
              rfl

/-- **Without an answer there is an error.** -/
lemma collect_of_unanswered {steps : ℕ} (enough : c.incoming.length < steps)
    (none' : ∀ qs q n, ¬ Answered id c.incoming qs q n) :
    (collect id steps c).1 = .error (fault c.incoming) := by
  induction steps generalizing c with
  | zero => exact absurd enough (Nat.not_lt_zero _)
  | succ steps ih =>
      cases read : (decode c.incoming).result with
      | error e => rw [collect, receive_of_error read, fault_of_error read]
      | ok v =>
          cases dict : v.dict? with
          | none => rw [collect, receive_of_other read dict, fault_of_other read dict]
          | some fields =>
              obtain rfl : v = Response.toValue ⟨fields⟩ := by
                cases v with
                | dict entries => exact congrArg Wire.Value.dict (Option.some.inj dict)
                | int | bytes | list => cases dict
              have other : ¬ Response.Ends id ⟨fields⟩ := fun last => none' _ _ _ (.here read last)
              have shorter := (decode_rest read).2
              have further := @ih (c.leaving (decode c.incoming).rest)
                (Nat.lt_of_lt_of_le shorter (Nat.le_of_lt_succ enough))
                fun qs q n rest => none' _ _ _ (rest.later read other)
              rw [collect_of_other read other, further, fault_of_response read]
              rfl

/-! ### One request -/

variable (c) (r : Request)

lemma send_id : (c.send r).1 = r.id.getD (.text (toString c.nextId)) := by
  rw [send]
  cases r.id <;> rfl

lemma incoming_send : (c.send r).2.incoming = c.incoming := by
  rw [send]
  cases r.id <;> rfl

/-- A request that has an id is sent as it is, and another one with the next automatic id. -/
lemma sent_send : ∃ q : Request, (c.send r).2.sent = q :: c.sent ∧ q.id = some (c.send r).1 ∧
    (r.id.isSome → q = r) := by
  rw [send]
  cases given : r.id with
  | some id => exact ⟨r, rfl, given, fun _ => rfl⟩
  | none =>
      refine ⟨_, rfl, ?_, fun some' => by simp at some'⟩
      rw [Request.id, Request.put, Fields.field?_put, if_pos rfl]

lemma nextId_send : (c.send r).2.nextId = c.nextId + if r.id.isNone then 1 else 0 := by
  rw [send]
  cases r.id <;> rfl

/-- A request that is answered gives the answer. -/
lemma request_of_answered (answered : Answered (c.send r).1 c.incoming qs q n) :
    c.request r = (.ok (own (c.send r).1 (qs ++ [q])),
      (c.send r).2.leaving (c.incoming.drop n)) := by
  rw [← incoming_send c r] at answered
  rw [request, ← incoming_send c r]
  exact collect_of_leaves (Nat.lt_succ_self _) answered.leaves answered.earlier answered.last

/-- A request that is not answered gives an error. -/
lemma request_of_unanswered (none' : ∀ qs q n, ¬ Answered (c.send r).1 c.incoming qs q n) :
    (c.request r).1 = .error (fault c.incoming) := by
  rw [← incoming_send c r] at none'
  rw [request, ← incoming_send c r]
  exact collect_of_unanswered (Nat.lt_succ_self _) none'

/-- Reading changes nothing about a client but what it has left to read. -/
lemma collect_leaves (id : Wire.Value) (steps : ℕ) (c : Client) :
    ∃ left, (collect id steps c).2 = c.leaving left := by
  have receives (c : Client) : ∃ left, c.receive.2 = c.leaving left := ⟨_, rfl⟩
  induction steps generalizing c with
  | zero => exact ⟨c.incoming, rfl⟩
  | succ steps ih =>
      obtain ⟨left, read⟩ := receives c
      obtain ⟨left', further⟩ := ih c.receive.2
      rw [read] at further
      rw [collect]
      split
      · next e c' received =>
        rw [received] at read
        exact ⟨left, read⟩
      · next q c' received =>
        rw [received] at read
        obtain rfl : c' = c.leaving left := read
        split
        · split
          · exact ⟨left, rfl⟩
          · exact ⟨left', further⟩
        · exact ⟨left', further⟩

lemma request_leaves : ∃ left, (c.request r).2 = (c.send r).2.leaving left :=
  collect_leaves _ _ _

/-! ### Requests in a row -/

/-- Requests sent one after another, each when the one before has been answered or has failed. -/
def requestAll : Client → List Request → List (Except DecodeError (List Response)) × Client
  | c, [] => ([], c)
  | c, r :: rs =>
    let (result, c) := c.request r
    let (results, c) := requestAll c rs
    (result :: results, c)

/-- The ids of requests in a row, when `n` is the number of the next automatic id. -/
def ids : ℕ → List Request → List Wire.Value
  | _, [] => []
  | n, r :: rs => r.id.getD (.text (toString n)) :: ids (n + if r.id.isNone then 1 else 0) rs

/-- The ids of those requests that have none themselves. -/
def automatic (n : ℕ) (rs : List Request) : List Wire.Value :=
  ((rs.zip (ids n rs)).filter fun p => p.1.id.isNone).map Prod.snd

/-- **Requests are sent with these ids**, whatever comes of them. -/
lemma sent_requestAll (c : Client) (rs : List Request) :
    ∃ sent : List Request, (c.requestAll rs).2.sent = sent.reverse ++ c.sent ∧
      sent.map Request.id = (ids c.nextId rs).map some := by
  induction rs generalizing c with
  | nil => exact ⟨[], rfl, rfl⟩
  | cons r rs ih =>
      obtain ⟨left, after⟩ := request_leaves c r
      obtain ⟨q, first, id, -⟩ := sent_send c r
      obtain ⟨sent, others, ids⟩ := ih (c.request r).2
      rw [after] at others ids
      refine ⟨q :: sent, ?_, ?_⟩
      · rw [requestAll]
        dsimp only
        rw [after, others, List.reverse_cons, List.append_assoc]
        exact congrArg _ first
      · have next : ((c.send r).2.leaving left).nextId = _ := nextId_send c r
        rw [List.map_cons, ids, next, id, send_id]
        rfl

/-- **Automatic ids are numbers in a row.** -/
lemma automatic_eq (n : ℕ) (rs : List Request) :
    automatic n rs = (List.range (rs.countP fun r => r.id.isNone)).map fun k =>
      .text (toString (n + k)) := by
  induction rs generalizing n with
  | nil => rfl
  | cons r rs ih =>
      have others := ih (n + if r.id.isNone then 1 else 0)
      rw [automatic] at others ⊢
      rw [ids, List.zip_cons_cons]
      cases given : r.id with
      | some id =>
          rw [given] at others
          simpa [given] using others
      | none =>
          rw [given] at others
          have further (k : ℕ) : n + 1 + k = n + (k + 1) := by omega
          simp only [Option.isNone_none, if_true, further] at others
          simp [given, others, List.range_succ_eq_map, Function.comp_def]

/-- An automatic id is given once. -/
lemma nodup_automatic (n : ℕ) (rs : List Request) : (automatic n rs).Nodup := by
  rw [automatic_eq]
  refine List.nodup_range.map fun k l same => ?_
  have texts : toString (n + k) = toString (n + l) := Option.some.inj (by
    rw [← Value.text?_text, ← Value.text?_text, same])
  have digits := congrArg String.toList texts
  rw [Nat.toString_eq_repr, Nat.toString_eq_repr, Nat.toList_repr, Nat.toList_repr] at digits
  have values := congrArg Decimal.digitsValue digits
  rw [Decimal.digitsValue_toDigits, Decimal.digitsValue_toDigits] at values
  exact Nat.add_left_cancel values

/-! ### Answers in a row -/

/-- The responses with one of some ids. -/
def among (ids : List Wire.Value) (qs : List Response) : List Response :=
  qs.filter fun q => q.id ∈ ids.map some

/-- Some responses are an answer: all have the id, and the last one ends it, but no other. -/
def IsAnswer (id : Wire.Value) (answer : List Response) : Prop :=
  ∃ qs q, answer = qs ++ [q] ∧ q.Ends id ∧ ∀ p ∈ qs, p.id = some id ∧ ¬ p.Ends id

lemma IsAnswer.id_eq {id : Wire.Value} {answer : List Response} (h : IsAnswer id answer) :
    ∀ p ∈ answer, p.id = some id := by
  obtain ⟨qs, q, rfl, last, earlier⟩ := h
  intro p hp
  rcases List.mem_append.mp hp with hp | hp
  · exact (earlier p hp).1
  · rw [List.mem_singleton.mp hp]
    exact last.id

variable {ids' : List Wire.Value} {answers : List (List Response)}

/-- Of responses with some ids, those with one of these ids are found. -/
lemma own_among (mem : id ∈ ids') (qs : List Response) : own id (among ids' qs) = own id qs := by
  rw [own, among, List.filter_filter, own]
  refine List.filter_congr fun q _ => ?_
  by_cases same : q.id = some id
  · simp [same, mem]
  · simp [same]

lemma among_among_cons (qs : List Response) :
    among ids' (among (id :: ids') qs) = among ids' qs := by
  rw [among, among, List.filter_filter, among]
  refine List.filter_congr fun q _ => ?_
  by_cases mem : q.id ∈ ids'.map some
  · simp only [mem, decide_true, List.map_cons, List.mem_cons, or_true, Bool.and_self]
  · simp only [mem, decide_false, Bool.false_and]

lemma id_mem_of_answers (each : List.Forall₂ IsAnswer ids' answers) :
    ∀ p ∈ answers.flatten, p.id ∈ ids'.map some := by
  induction each with
  | nil => simp
  | cons first _ ih =>
      intro p hp
      rw [List.map_cons, List.mem_cons]
      rcases List.mem_append.mp hp with hp | hp
      · exact .inl (first.id_eq p hp)
      · exact .inr (ih p hp)

lemma among_eq_self (each : List.Forall₂ IsAnswer ids' answers) :
    among ids' answers.flatten = answers.flatten :=
  List.filter_eq_self.mpr fun p hp => decide_eq_true (id_mem_of_answers each p hp)

lemma own_eq_nil {qs : List Response} (other : ∀ p ∈ qs, p.id ≠ some id) : own id qs = [] := by
  simpa [own] using other

lemma own_eq_self {qs : List Response} (all : ∀ p ∈ qs, p.id = some id) : own id qs = qs := by
  simpa [own] using all

/-- Each answer is what has its id among all answers. -/
lemma answers_eq (distinct : ids'.Nodup) (each : List.Forall₂ IsAnswer ids' answers) :
    answers = ids'.map fun id => own id answers.flatten := by
  induction each with
  | nil => rfl
  | @cons id answer ids' answers first rest ih =>
      obtain ⟨new, distinct⟩ := List.nodup_cons.mp distinct
      have later := id_mem_of_answers rest
      have none' : own id answers.flatten = [] := own_eq_nil fun p hp same => by
        have mem := later p hp
        rw [same, List.mem_map_of_injective (Option.some_injective _)] at mem
        exact new mem
      have others : ids'.map (fun id => own id (answer ++ answers.flatten)) =
          ids'.map fun id => own id answers.flatten := by
        refine List.map_congr_left fun id' mem => ?_
        rw [own_append, own_eq_nil fun p hp same => ?_, List.nil_append]
        rw [first.id_eq p hp, Option.some.injEq] at same
        exact new (same ▸ mem)
      rw [List.map_cons, List.flatten_cons, others, ← ih distinct, own_append, none',
        List.append_nil, own_eq_self first.id_eq]

/-- A frame of a stream of dictionaries, with what stands before it and what is left after it. -/
lemma exists_place {b : Bytes} {before back : List Response} {more : List Wire.Value}
    (stream : (frames b).1.map Prod.fst =
      (before ++ q :: back).map Response.toValue ++ more) :
    ∃ n, (∃ front after, (frames b).1 = front ++ (q.toValue, n) :: after ∧
        front.map Prod.fst = before.map Response.toValue) ∧
      (frames (b.drop n)).1.map Prod.fst = back.map Response.toValue ++ more := by
  rw [List.map_append, List.map_cons, List.append_assoc, List.cons_append] at stream
  obtain ⟨front, tail, split, dicts, rest⟩ := List.map_eq_append_iff.mp stream
  obtain ⟨⟨v, n⟩, after, rfl, value, onward⟩ := List.map_eq_cons_iff.mp rest
  obtain rfl : v = q.toValue := value
  have left := (leaves_of_frames split).frames_eq
  rw [split, List.map_append, List.map_cons, List.append_assoc, List.singleton_append] at left
  have others := (List.cons.inj (List.append_cancel_left left)).2
  exact ⟨n, ⟨front, after, split, dicts⟩, others.symm.trans onward⟩

/-- The first answer is found, and the other answers are in what is left after it. -/
lemma exists_answered {b : Bytes} {more : List Wire.Value} {answer further : List Response}
    (stream : (frames b).1.map Prod.fst = qs.map Response.toValue ++ more)
    (first : IsAnswer id answer) (order : among (id :: ids') qs = answer ++ further) :
    ∃ before q n back, Answered id b before q n ∧ own id (before ++ [q]) = answer ∧
      (frames (b.drop n)).1.map Prod.fst = back.map Response.toValue ++ more ∧
      among (id :: ids') back = further := by
  obtain ⟨earlier, q, rfl, last, before⟩ := first
  rw [List.append_assoc, List.singleton_append] at order
  obtain ⟨front, tail, rfl, hfront, htail⟩ := List.filter_eq_append_iff.mp order
  obtain ⟨skipped, back, rfl, foreign, -, hback⟩ := List.filter_eq_cons_iff.mp htail
  have none' : among (id :: ids') skipped = [] := List.filter_eq_nil_iff.mpr foreign
  have found : among (id :: ids') (front ++ skipped) = earlier := by
    rw [among, List.filter_append, hfront]
    exact (congrArg (earlier ++ ·) none').trans (List.append_nil earlier)
  rw [← List.append_assoc] at stream
  obtain ⟨n, place, rest⟩ := exists_place stream
  refine ⟨front ++ skipped, q, n, back, ⟨place, fun p hp ends => ?_, last⟩, ?_, rest, hback⟩
  · have mem : p ∈ earlier := by
      rw [← found]
      exact List.mem_filter.mpr ⟨hp, by simp [ends.id]⟩
    exact (before p mem).2 ends
  · rw [own_append, ← own_among List.mem_cons_self (front ++ skipped), found,
      own_eq_self fun p hp => (before p hp).1, own_eq_self (by simpa using last.id)]

/-- **Each request gets its answer**, when the answers come in the order of the requests and only
frames with other ids stand between them. -/
lemma requestAll_of_answers {c : Client} {rs : List Request} {qs : List Response}
    {more : List Wire.Value}
    (stream : (frames c.incoming).1.map Prod.fst = qs.map Response.toValue ++ more)
    (each : List.Forall₂ IsAnswer (ids c.nextId rs) answers)
    (order : among (ids c.nextId rs) qs = answers.flatten) :
    (c.requestAll rs).1 = answers.map .ok := by
  induction rs generalizing c answers qs with
  | nil =>
      cases each
      rfl
  | cons r rs ih =>
      rw [ids, ← send_id, ← nextId_send] at each order
      cases each with
      | @cons _ answer _ answers first rest =>
          obtain ⟨before, q, n, back, answered, kept, left, later⟩ :=
            exists_answered stream first order
          have result := request_of_answered c r answered
          have order : among (ids (c.send r).2.nextId rs) back = answers.flatten := by
            rw [← among_among_cons back, later, among_eq_self rest]
          have others := @ih answers ((c.send r).2.leaving (c.incoming.drop n)) back left rest order
          rw [requestAll, result, kept]
          exact congrArg (Except.ok answer :: ·) others

/-- **The client returns exactly its own frames.** A request is sent with its id, or else with the
next number, from one on. If a frame of the stream is the first that ends the answer to this id,
with no frame before it that is no dictionary, then the frames with this id up to there are
returned, in order, and the stream is left right after them. Otherwise the error is returned that is
met when the frames are read. And of requests in a row, whatever comes of them, those without ids
are given the numbers in order; if the ids differ and the answers stand in the stream in the order
of the requests, with any frames with other ids among them, then each request gets the frames with
its id. -/
theorem client_exact :
    (∀ (net : Network) (e : Endpoint) (incoming : Bytes) (c : Client),
      connect net e incoming = .ok c → c.nextId = 1 ∧ c.incoming = incoming) ∧
    ∀ c : Client,
      (∀ r : Request,
        (c.send r).1 = r.id.getD (.text (toString c.nextId)) ∧
        (∀ qs q n, Answered (c.send r).1 c.incoming qs q n →
          (c.request r).1 = .ok (own (c.send r).1 (qs ++ [q])) ∧
          (c.request r).2.incoming = c.incoming.drop n) ∧
        ((∀ qs q n, ¬ Answered (c.send r).1 c.incoming qs q n) →
          (c.request r).1 = .error (fault c.incoming))) ∧
      ∀ rs : List Request,
        (∃ sent : List Request, (c.requestAll rs).2.sent = sent.reverse ++ c.sent ∧
          sent.map Request.id = (ids c.nextId rs).map some) ∧
        automatic c.nextId rs = (List.range (rs.countP fun r => r.id.isNone)).map (fun k =>
          .text (toString (c.nextId + k))) ∧
        (automatic c.nextId rs).Nodup ∧
        ∀ (qs : List Response) (more : List Wire.Value) (answers : List (List Response)),
          (ids c.nextId rs).Nodup →
          (frames c.incoming).1.map Prod.fst = qs.map Response.toValue ++ more →
          List.Forall₂ IsAnswer (ids c.nextId rs) answers →
          among (ids c.nextId rs) qs = answers.flatten →
          (c.requestAll rs).1 = answers.map .ok ∧
            answers = (ids c.nextId rs).map fun id => own id qs := by
  refine ⟨fun net e incoming c made => ?_, fun c => ⟨fun r => ⟨send_id c r, ?_,
    request_of_unanswered c r⟩, fun rs => ⟨sent_requestAll c rs, automatic_eq _ rs,
    nodup_automatic _ rs, ?_⟩⟩⟩
  · rw [connect] at made
    split at made
    · cases made
      exact ⟨rfl, rfl⟩
    · cases made
  · intro qs q n answered
    rw [request_of_answered c r answered]
    exact ⟨rfl, rfl⟩
  · intro qs more answers distinct stream each order
    refine ⟨requestAll_of_answers stream each order, (answers_eq distinct each).trans ?_⟩
    refine List.map_congr_left fun id mem => ?_
    rw [← order, own_among mem]

/-- Two requests, the first without an id, and frames with a third id among their answers; then a
frame that is no dictionary, and an empty stream. -/
theorem client_exact_foreign :
    let other := (Response.reply (some (.text "other")) none).withStatus [.done]
    let value := (Response.reply (some (.text "1")) none).putText "value" "3"
    let done := (Response.reply (some (.text "1")) none).withStatus [.done]
    let last := (Response.reply (some (.int 5)) none).withStatus [.error, .done]
    let qs := [other, value, other, done, last]
    let more : List Wire.Value := [.int 3]
    let stream := (qs.map Response.toValue ++ more).flatMap Wire.Value.encode
    let rs := [Request.forOp "eval", (Request.forOp "eval").put "id" (.int 5)]
    let c : Client := ⟨1, stream, []⟩
    let lost : Client := ⟨7, [], []⟩
    (ids 1 rs).Nodup ∧ (frames stream).1.map Prod.fst = qs.map Response.toValue ++ more ∧
      List.Forall₂ IsAnswer (ids 1 rs) [[value, done], [last]] ∧
      among (ids 1 rs) qs = [[value, done], [last]].flatten ∧
      (c.requestAll rs).1 = [.ok [value, done], .ok [last]] ∧
      (∃ n, Answered (.text "1") stream [other, value, other] done n ∧
        (c.request (Request.forOp "eval")).1 = .ok [value, done] ∧
        (c.request (Request.forOp "eval")).2.incoming = stream.drop n) ∧
      (lost.request (Request.forOp "eval")).1 = .error .ended := by
  intro other value done last qs more stream rs c lost
  have distinct : (ids 1 rs).Nodup := by decide +kernel
  have read : (frames stream).1.map Prod.fst = qs.map Response.toValue ++ more := by
    decide +kernel
  have ended : done.Ends (.text "1") := Response.ends_iff.mpr (by decide +kernel)
  have each : List.Forall₂ IsAnswer (ids 1 rs) [[value, done], [last]] := by
    have unfinished : value.id = some (.text "1") ∧ ¬ value.Ends (.text "1") := by
      rw [Response.ends_iff]
      decide +kernel
    have final : last.Ends (.int 5) := Response.ends_iff.mpr (by decide +kernel)
    refine .cons ⟨[value], done, rfl, ended, ?_⟩ (.cons ⟨[], last, rfl, final, by simp⟩ .nil)
    intro p hp
    rw [List.mem_singleton.mp hp]
    exact unfinished
  have order : among (ids 1 rs) qs = [[value, done], [last]].flatten := by decide +kernel
  obtain ⟨one, row⟩ := client_exact.2 c
  obtain ⟨results, -⟩ := (row rs).2.2.2 qs more _ distinct read each order
  refine ⟨distinct, read, each, order, results, ?_, ?_⟩
  · obtain ⟨n, place, -⟩ := @exists_place done stream [other, value, other] [last] more read
    have earlier : ∀ p ∈ [other, value, other], ¬ p.Ends (.text "1") := by
      simp only [Response.ends_iff]
      decide +kernel
    have answered : Answered (.text "1") stream [other, value, other] done n :=
      ⟨place, earlier, ended⟩
    have given : (c.send (Request.forOp "eval")).1 = .text "1" := by decide +kernel
    have kept : own (.text "1") ([other, value, other] ++ [done]) = [value, done] := by
      decide +kernel
    have exact' := (one (Request.forOp "eval")).2.1 [other, value, other] done n
    rw [given, kept] at exact'
    exact ⟨n, answered, exact' answered⟩
  · obtain ⟨one, -⟩ := client_exact.2 lost
    refine (one (Request.forOp "eval")).2.2 fun qs q n answered => ?_
    obtain ⟨before, after, split, -⟩ := answered.frames
    cases before <;> cases split

end Client

end HostedRepl
