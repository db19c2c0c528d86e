/-
The frames that answer a request.

A peer reads frames of a limited length and depth only, and nothing keeps to
these limits when a response is made. The depth is no matter, as a response
repeats the id of the request at the place where it stood. The length is one:
a reply repeats the id and adds to it.

* `Said`: the responses that a request can lead to, by its operation;
  `said_dispatch`: no others are given.
* `Gives`: a step of answering that gives responses of one kind only.
* `Said.tidy`: each is in order and not nested too deep.
* `Said.length_le`: **hardly longer than the request**, unless it carries what
  the evaluator has said or the list of the sessions.
* `frames_read_back`: a response is read back just if it is not too long.
* `long_id_refused`: an accepted request whose reply is too long.
-/
import Mathlib.Tactic
import HostedRepl.Proofs.Bridge.Answer
import HostedRepl.Proofs.Bridge.CloseReply
import HostedRepl.Proofs.Bridge.Closing
import HostedRepl.Proofs.Wire.Extent

namespace HostedRepl.Bridge

open Wire (Bytes Request Response Status Value decode decodeAll)

variable {σ α β : Type}

/-! ### What is said -/

/-- The start of every response to a request. -/
def replyTo (session : SessionId) (request : Request) : Response :=
  .reply request.id (some session.render)

/-- The operation evaluates a text. -/
def Operation.evaluates : Option Operation → Bool
  | some .eval => true
  | some .loadFile => true
  | _ => false

lemma Operation.evaluates_iff {o : Option Operation} :
    evaluates o = true ↔ o = some .eval ∨ o = some .loadFile := by
  cases o with
  | none => simp [evaluates]
  | some operation => cases operation <;> simp [evaluates]

/-- The responses that a request with an operation, or with none, can lead to. -/
inductive Said (session : SessionId) (request : Request) : Option Operation → Response → Prop
  | cloned (child : SessionId) : Said session request (some .clone)
      (((replyTo session request).putText "new-session" child.render).withStatus [.done])
  | closed : Said session request (some .close) (closeReply session request)
  | described : Said session request (some .describe) (describe (replyTo session request))
  | listed (ids : List SessionId) : Said session request (some .lsSessions)
      (((replyTo session request).put "sessions" (.texts (ids.map SessionId.render))).withStatus
        [.done])
  | noCode : Said session request (some .eval)
      (missingParam (replyTo session request) "eval" "code")
  | noFile : Said session request (some .loadFile)
      (missingParam (replyTo session request) "load-file" "file")
  | text {o : Option Operation} (evaluates : Operation.evaluates o = true) (key text : String) :
      Said session request o ((replyTo session request).putText key text)
  | value {o : Option Operation} (evaluates : Operation.evaluates o = true) (v ns : String) :
      Said session request o
        ((((replyTo session request).putText "value" v).putText "ns" ns).withStatus [.done])
  | failure {o : Option Operation} (evaluates : Operation.evaluates o = true) (category : String) :
      Said session request o
        (((replyTo session request).putText "ex" category).withStatus [.evalError, .done])
  | unknown (op : String) (named : request.op = some op) : Said session request none
      (((replyTo session request).putText "err" ("unknown op: " ++ op)).withStatus
        [.error, .unknownOp, .done])
  | nothing : Said session request none
      (((replyTo session request).putText "err" "request has no op").withStatus
        [.error, .unknownOp, .done])

/-- All responses given by a step of answering have the property. -/
def Gives (P : Response → Prop) (x : Dispatch σ α) : Prop :=
  ∀ a : Answering σ, (∀ r ∈ a.frames, P r) → ∀ r ∈ (stateAfter x a).frames, P r

namespace Gives

variable {P : Response → Prop}

lemma bind {x : Dispatch σ α} {f : α → Dispatch σ β} (first : Gives P x)
    (second : ∀ r, Gives P (f r)) : Gives P (x >>= f) := by
  intro a before
  have between := first a before
  cases now : x a with
  | ok r a' =>
      rw [stateAfter, now] at between
      rw [stateAfter_bind_ok now]
      exact second r a' between
  | error p a' =>
      rw [stateAfter, now] at between
      rw [stateAfter_bind_error now]
      exact between

lemma pure (r : α) : Gives (σ := σ) P (pure r) := fun _ before => before

lemma get : Gives (σ := σ) P get := fun _ before => before

lemma modify {f : Answering σ → Answering σ} (h : ∀ a, (f a).frames = a.frames) :
    Gives P (modify f) := fun a before r mem => before r (h a ▸ mem)

lemma emit {r : Response} (h : P r) : Gives (σ := σ) P (emit r) :=
  fun _ before => List.forall_mem_cons.mpr ⟨h, before⟩

lemma ask (x : Guarded σ α) : Gives P (ask x) := by
  intro a before
  rw [stateAfter_ask]
  exact before

lemma askNamespace (ev : Evaluator σ) (session : SessionId) :
    Gives P (askNamespace ev session) := by
  intro a before
  rw [stateAfter_askNamespace]
  exact before

end Gives

variable (ev : Evaluator σ) (session : SessionId) (request : Request)

/-- What is said of an evaluation: its output and its value, or its error and the kind of that. -/
lemma said_evaluate {o : Option Operation} (evaluates : Operation.evaluates o = true)
    (code : String) :
    Gives (Said session request o) (evaluate ev session (replyTo session request) code) := by
  refine (Gives.ask _).bind fun evaluation => ?_
  have output : Gives (σ := σ) (Said session request o)
      (emitOutput (replyTo session request) evaluation.output) := by
    cases evaluation.output with
    | none => exact Gives.pure ()
    | some out => exact Gives.emit (.text evaluates "out" out)
  refine output.bind fun _ => ?_
  cases evaluation.result with
  | ok v => exact (Gives.askNamespace ev session).bind fun ns => Gives.emit (.value evaluates v ns)
  | error failure =>
      exact (Gives.emit (.text evaluates "err" _)).bind fun _ =>
        Gives.emit (.failure evaluates failure.category)

lemma said_perform (operation : Operation) :
    Gives (Said session request (some operation))
      (perform ev session request (replyTo session request) operation) := by
  cases operation with
  | clone =>
      refine Gives.get.bind fun a => ?_
      refine Gives.bind (Gives.modify (f := fun b => { b with
        registry := (a.registry.create .cloned).2 }) fun _ => rfl) fun _ => ?_
      exact (Gives.ask _).bind fun _ => Gives.emit (.cloned _)
  | close =>
      refine Gives.bind (Gives.modify (f := fun b => { b with
        registry := b.registry.remove session }) fun _ => rfl) fun _ => ?_
      exact (Gives.ask _).bind fun _ => Gives.emit .closed
  | describe => exact Gives.emit .described
  | lsSessions => exact Gives.get.bind fun a => Gives.emit (.listed _)
  | eval =>
      rw [perform]
      cases request.fields.text? "code" with
      | some code => exact said_evaluate ev session request rfl code
      | none => exact Gives.emit .noCode
  | loadFile =>
      rw [perform]
      cases request.fields.text? "file" with
      | some code => exact said_evaluate ev session request rfl code
      | none => exact Gives.emit .noFile

/-- **Nothing else is said** in answer to a request, also if the evaluator panics. -/
theorem said_dispatch :
    Gives (Said session request (operation? request)) (dispatch ev session request) := by
  rw [dispatch, operation?]
  cases named : request.op with
  | none => exact Gives.emit .nothing
  | some op =>
      simp only [Option.bind_some]
      cases Operation.ofName? op with
      | none => exact Gives.emit (.unknown op named)
      | some operation => exact said_perform ev session request operation

lemma said_answerTo (registry : Registry) (x : σ) :
    ∀ r ∈ (answerTo ev registry x session request).1, Said session request (operation? request) r := by
  have given := said_dispatch ev session request ⟨registry, x, []⟩ fun _ mem =>
    absurd mem List.not_mem_nil
  rw [stateAfter] at given
  rw [answerTo]
  cases now : dispatch ev session request ⟨registry, x, []⟩ with
  | ok r a =>
      rw [now] at given
      exact fun r mem => given r (List.mem_reverse.mp mem)
  | error p a =>
      rw [now] at given
      exact fun r mem => given r (List.mem_reverse.mp mem)

/-- A panic adds one response at most. -/
lemma Exchange.mem_completed {item : WorkItem} {frames : List Response} {panic : Option Panic}
    {r : Response} (mem : r ∈ completed item frames panic) :
    r ∈ frames ∨ ∃ p, r = panicReport item p := by
  cases panic with
  | none => exact .inl mem
  | some p =>
      rw [completed] at mem
      split at mem
      · exact .inl mem
      · exact (List.mem_append.mp mem).imp_right fun last => ⟨p, List.mem_singleton.mp last⟩

lemma Exchange.subset_completed (item : WorkItem) (frames : List Response) (panic : Option Panic) :
    frames ⊆ completed item frames panic := by
  cases panic with
  | none => exact List.Subset.refl _
  | some p =>
      rw [completed]
      split
      · exact List.Subset.refl _
      · exact List.subset_append_left _ _

/-! ### Order and depth -/

/-- The id of a request that was read is in order, and as deep as a field of a frame may be. -/
lemma id_of_decode {bytes : Bytes} {request : Request}
    (read : (decode bytes).result = .ok request.toValue) :
    ∀ v ∈ request.id, v.WellFormed ∧ v.height < Wire.depthLimit := by
  obtain ⟨form, -, -, -, h, depth, written⟩ := Wire.decode_sound read
  intro v found
  have mem : (Bytes.ofText "id", v) ∈ request.fields := Wire.Fields.mem_of_get? found
  have height := Value.height_dict_le_iff.mp (written.height_le.trans depth) _ mem
  cases written.wellFormed with
  | dict _ each => exact ⟨each _ mem, height⟩

variable {session request} {r : Response} {o : Option Operation}

lemma tidy_describe (tidy : r.Tidy) : (describe r).Tidy := by
  have none : (Value.dict []).WellFormed :=
    .dict Wire.Fields.sorted_nil fun e mem => absurd mem List.not_mem_nil
  have ops : (Value.dict (Wire.Fields.ofPairs
      (Operation.all.map fun o => (Bytes.ofText o.name, .dict [])))).WellFormed := by
    refine .dict (Wire.Fields.sorted_ofPairs _) fun e mem => ?_
    obtain ⟨o, -, rfl⟩ := List.mem_map.mp (Wire.Fields.mem_of_mem_ofPairs mem)
    exact none
  have single {key : String} {v : Value} (h : v.WellFormed) :
      (Value.dict (Wire.Fields.put [] key v)).WellFormed :=
    .dict (Wire.Fields.sorted_nil.insert _ _) (List.forall_mem_singleton.mpr h)
  rw [describe]
  refine Response.Tidy.withStatus ?_ _
  exact (tidy.put "ops" ops (by decide)).put "versions" (single (single (.bytes _))) (by decide)

/-- **Every response is in order and not nested too deep**, as the id was not. -/
lemma Said.tidy (id : ∀ v ∈ request.id, v.WellFormed ∧ v.height < Wire.depthLimit)
    (said : Said session request o r) : r.Tidy := by
  have start : (replyTo session request).Tidy := Response.tidy_reply id _
  cases said with
  | cloned child => exact (start.putText _ _).withStatus _
  | closed => exact start.withStatus _
  | described => exact tidy_describe start
  | listed ids =>
      refine Response.Tidy.withStatus (start.put _ (Value.wellFormed_texts _) ?_) _
      exact (Value.height_texts_le _).trans_lt (by decide)
  | noCode => exact (start.putText _ _).withStatus _
  | noFile => exact (start.putText _ _).withStatus _
  | text _ key text => exact start.putText _ _
  | value _ v ns => exact ((start.putText _ _).putText _ _).withStatus _
  | failure _ category => exact (start.putText _ _).withStatus _
  | unknown op _ => exact (start.putText _ _).withStatus _
  | nothing => exact (start.putText _ _).withStatus _

/-! ### Length -/

/-- The start of a response repeats the id and names the session. -/
lemma size_replyTo_le (session : SessionId) (request : Request) :
    (replyTo session request).size + (request.fields.field? "op").elim 0 (4 + ·.encode.length) ≤
      request.size + 48 := by
  have sized : request.size = request.fields.bytes.length + 2 :=
    Value.length_encode_dict request.fields
  have empty : Response.empty.size = 2 := by decide
  have session' : (Bytes.ofText "session").encode.length = 9 := by decide
  have id' : (Bytes.ofText "id").encode.length = 4 := by decide
  have op' : (Bytes.ofText "op").encode.length = 4 := by decide
  have ne : Bytes.ofText "id" ≠ Bytes.ofText "op" := by decide
  rw [replyTo]
  cases id : request.id with
  | none =>
      have named := Response.size_putText_le .empty "session" session.render
      rw [Value.length_encode_render] at named
      have start : (Response.reply none (some session.render)).size ≤ 50 := named.trans (by omega)
      cases op : request.fields.field? "op" with
      | none =>
          rw [Option.elim_none]
          omega
      | some w =>
          have there := Wire.Fields.length_single_le op
          rw [Option.elim_some]
          omega
  | some v =>
      have repeated := Response.size_put_le .empty "id" v
      have named := Response.size_putText_le (Response.empty.put "id" v) "session" session.render
      rw [Value.length_encode_render] at named
      have start : (Response.reply (some v) (some session.render)).size ≤ 54 + v.encode.length :=
        named.trans (by omega)
      cases op : request.fields.field? "op" with
      | none =>
          have there := Wire.Fields.length_single_le (k := Bytes.ofText "id") id
          rw [Option.elim_none]
          omega
      | some w =>
          have there := Wire.Fields.length_pair_le ne id op
          rw [Option.elim_some]
          omega

/-- The status is all that a reply to a request to close adds. -/
lemma size_closeReply_le (session : SessionId) (request : Request) :
    (closeReply session request).size ≤ (replyTo session request).size + 41 := by
  have status (known : Bool) : (Value.texts ((if known then [Status.done, .sessionClosed]
      else [.error, .unknownSession, .done]).map Status.text)).encode.length ≤ 33 := by
    cases known <;> decide
  exact (Response.size_withStatus_le _ _).trans
    (Nat.add_le_add_left (Nat.add_le_add_left (status _) 8) _)

/-- The description of the server is short. -/
lemma size_describe_le (r : Response) : (describe r).size ≤ r.size + 138 := by
  have ops : (Bytes.ofText "ops").encode.length + (Value.dict (Wire.Fields.ofPairs
      (Operation.all.map fun o => (Bytes.ofText o.name, .dict [])))).encode.length = 74 := by
    decide
  have versions : (Bytes.ofText "versions").encode.length + (Value.dict (Wire.Fields.put []
      "tickrepl" (.dict (Wire.Fields.put [] "version-string"
        (.text version))))).encode.length = 48 := by
    decide
  have status : (Value.texts ([Status.done].map Status.text)).encode.length = 8 := by decide
  calc (describe r).size
    _ ≤ r.size + 74 + 48 + (8 + 8) :=
        (Response.size_withStatus_le _ _).trans (Nat.add_le_add
          ((Response.size_put_le _ _ _).trans (Nat.add_le_add
            ((Response.size_put_le _ _ _).trans (Nat.add_le_add_left ops.le _)) versions.le))
          (Nat.add_le_add_left status.le 8))
    _ = r.size + 138 := rfl

/-- **A response is hardly longer than the request**, unless it carries what the evaluator has said
or the list of the sessions. -/
lemma Said.size_le (said : Said session request o r) (quiet : Operation.evaluates o = false)
    (short : o ≠ some .lsSessions) : r.size ≤ request.size + 200 := by
  have with' := size_replyTo_le session request
  have start : (replyTo session request).size ≤ request.size + 48 := by omega
  have err' : (Bytes.ofText "err").encode.length = 5 := by decide
  have refused : (Value.texts ([Status.error, .unknownOp, .done].map Status.text)).encode.length =
      28 := by decide
  cases said with
  | cloned child =>
      have named := Response.size_putText_le (replyTo session request) "new-session" child.render
      rw [Value.length_encode_render] at named
      have key : (Bytes.ofText "new-session").encode.length = 14 := by decide
      have status : (Value.texts ([Status.done].map Status.text)).encode.length = 8 := by decide
      exact (Response.size_withStatus_le _ _).trans (by omega)
  | closed => exact (size_closeReply_le session request).trans (by omega)
  | described => exact (size_describe_le _).trans (by omega)
  | listed ids => exact absurd rfl short
  | noCode => cases quiet
  | noFile => cases quiet
  | text evaluates key text => simp [quiet] at evaluates
  | value evaluates v ns => simp [quiet] at evaluates
  | failure evaluates category => simp [quiet] at evaluates
  | unknown op named =>
      -- the name of the operation is repeated as well, from another field of the request
      obtain ⟨w, found, text⟩ := Option.bind_eq_some_iff.mp named
      rw [found, Option.elim_some] at with'
      have repeated := Response.size_putText_le (replyTo session request) "err" ("unknown op: " ++ op)
      have longer := Value.length_encode_append_le text (t := "unknown op: ") (by decide)
      have front : (Bytes.ofText "unknown op: ").length = 12 := by decide
      exact (Response.size_withStatus_le _ _).trans (by omega)
  | nothing =>
      have said := Response.size_putText_le (replyTo session request) "err" "request has no op"
      have text : (Value.text "request has no op").encode.length = 20 := by decide
      exact (Response.size_withStatus_le _ _).trans (by omega)

/-- The response of a server that ends carries its reason. -/
lemma size_refusal_le (item : WorkItem) (reason : String) :
    (item.refusal reason).size ≤ item.request.size + 200 + (Value.text reason).encode.length := by
  have with' := size_replyTo_le item.session item.request
  have said : (item.reply.putText "err" reason).size ≤ (replyTo item.session item.request).size +
      ((Bytes.ofText "err").encode.length + (Value.text reason).encode.length) :=
    Response.size_putText_le _ _ _
  have err' : (Bytes.ofText "err").encode.length = 5 := by decide
  have status : (Value.texts ([Status.error, .serverShutdown, .done].map
      Status.text)).encode.length = 33 := by decide
  exact (Response.size_withStatus_le _ _).trans (by omega)

/-! ### What a peer can read -/

/-- **A response is read back just if it is not too long.** This holds of everything that is sent in
answer to a request that was read, also of the report of a panic and of the response of a server
that ends. Each is nested no deeper than a frame may be. It is hardly longer than the request was,
unless it carries what the evaluator has said, the list of the sessions, or a long reason. -/
theorem frames_read_back {bytes : Bytes} {item : WorkItem}
    (read : (decode bytes).result = .ok item.request.toValue) (ev : Evaluator σ)
    (registry : Registry) (x : σ) (reason : String) :
    let answer := answerTo ev registry x item.session item.request
    (∀ r ∈ item.refusal reason :: Exchange.completed item answer.1 answer.2.1,
      r.toValue.height ≤ 64 ∧
        (decodeAll r.toValue.encode = .ok r.toValue ↔ r.toValue.encode.length ≤ 16777216)) ∧
    (operation? item.request ∉ [some .eval, some .loadFile, some .lsSessions] →
      ∀ r ∈ answer.1, r.toValue.encode.length ≤ (decode bytes).consumed + 200) ∧
    (item.refusal reason).toValue.encode.length ≤
      (decode bytes).consumed + 200 + (Value.text reason).encode.length := by
  intro answer
  have said := said_answerTo ev item.session item.request registry x
  have id := id_of_decode read
  have start : (replyTo item.session item.request).Tidy := Response.tidy_reply id _
  obtain ⟨form, -, taken, -, h, -, written⟩ := Wire.decode_sound read
  have shorter : item.request.size ≤ (decode bytes).consumed := taken ▸ written.length_encode_le
  refine ⟨?_, fun op r mem => ?_, ?_⟩
  · suffices tidy : ∀ r ∈ item.refusal reason :: Exchange.completed item answer.1 answer.2.1,
        r.Tidy from fun r mem => ⟨(tidy r mem).shallow, (tidy r mem).decodeAll_iff⟩
    refine List.forall_mem_cons.mpr ⟨(start.putText _ _).withStatus _, fun r mem => ?_⟩
    rcases Exchange.mem_completed mem with mem | ⟨p, rfl⟩
    · exact (said r mem).tidy id
    · exact ((start.putText _ _).putText _ _).withStatus _
  · obtain ⟨notEval, notLoad, notList⟩ : operation? item.request ≠ some .eval ∧
        operation? item.request ≠ some .loadFile ∧ operation? item.request ≠ some .lsSessions := by
      simpa using op
    have quiet : Operation.evaluates (operation? item.request) = false := by
      rw [← Bool.not_eq_true, Operation.evaluates_iff]
      exact not_or.mpr ⟨notEval, notLoad⟩
    exact ((said r mem).size_le quiet notList).trans (by omega)
  · exact (size_refusal_le item reason).trans (by omega)

/-- A request to describe the server: the description is read back. -/
theorem frames_read_back_describe :
    let item : WorkItem := ⟨0, .numbered 0 0, (Request.forOp "describe").put "id" (.int 7), .fresh⟩
    let answer := answerTo .ofRuntime (.empty (SessionId.numbered 0)) .start item.session
      item.request
    (decode item.request.toValue.encode).result = .ok item.request.toValue ∧ answer.1 ≠ [] ∧
      ∀ r ∈ answer.1, decodeAll r.toValue.encode = .ok r.toValue ∧
        r.toValue.encode.length ≤ 223 := by
  intro item answer
  have read : (decode item.request.toValue.encode).result = .ok item.request.toValue := by
    decide +kernel
  have consumed : (decode item.request.toValue.encode).consumed = 23 := by decide +kernel
  have op : operation? item.request = some .describe := by decide +kernel
  obtain ⟨each, short, -⟩ := frames_read_back read .ofRuntime (.empty (SessionId.numbered 0)) .start
    "the server ends"
  refine ⟨read, by decide +kernel, fun r mem => ?_⟩
  have length : r.toValue.encode.length ≤ 223 := by
    rw [consumed] at short
    exact short (by rw [op]; decide) r mem
  have sent := Exchange.subset_completed item answer.1 answer.2.1 mem
  exact ⟨(each r (List.mem_cons_of_mem _ sent)).2.mpr (by omega), length⟩

/-- **A reply whose id leaves no room** for anything else is not read back. -/
lemma not_read_back {r : Response} {v : Value} (belongs : Belongs session request r)
    (id : request.id = some v) (long : 16777216 < v.encode.length + 15) :
    decodeAll r.toValue.encode ≠ .ok r.toValue := by
  intro accepted
  obtain ⟨length, -⟩ := Wire.decodeAll_iff.mp accepted
  obtain ⟨w, session, -⟩ := Option.bind_eq_some_iff.mp belongs.session
  have both := Response.le_size (by decide) (belongs.id.trans id) session
  have id' : (Bytes.ofText "id").encode.length = 4 := by decide
  have session' : (Bytes.ofText "session").encode.length = 9 := by decide
  have limit : Wire.frameLimit = 16777216 := rfl
  rw [Response.size] at both
  omega

/-- **A request that is read and whose reply is not**: it has nothing but an id, and just the length
of a frame. -/
theorem long_id_refused :
    let id := Value.bytes (List.replicate 16777201 120)
    let request : Request := ⟨[(Bytes.ofText "id", id)]⟩
    let session := SessionId.numbered 0 0
    let answer := answerTo .ofRuntime (.empty (SessionId.numbered 0)) .start session request
    (decode request.toValue.encode).result = .ok request.toValue ∧
      ∃ r ∈ answer.1, decodeAll r.toValue.encode ≠ .ok r.toValue := by
  intro id request session answer
  have length : id.encode.length = 16777210 := by
    have digits : (Bytes.ofNat 16777201).length = 8 := by decide
    rw [Value.encode_bytes, Bytes.length_encode, List.length_replicate, digits]
  have size : request.toValue.encode.length = 16777216 := by
    have key : (Bytes.ofText "id").encode.length = 4 := by decide
    rw [Request.toValue, Value.length_encode_dict, Wire.Fields.length_bytes_cons, length, key]
    rfl
  have ordered : request.toValue.WellFormed :=
    .dict (List.pairwise_singleton _ _) (List.forall_mem_singleton.mpr (.bytes _))
  have shallow : request.toValue.height ≤ Wire.depthLimit :=
    Value.height_dict_le_iff.mpr (List.forall_mem_singleton.mpr (Nat.succ_pos 63))
  have fits : request.toValue.Fits := Value.fits_iff.mpr ⟨shallow, size.le⟩
  have read := ordered.decode_encode fits []
  rw [List.append_nil] at read
  -- the reply to a request with any id and nothing else
  have said (v : Value) : (answerTo .ofRuntime (.empty (SessionId.numbered 0)) .start session
      ⟨[(Bytes.ofText "id", v)]⟩).1 = [((replyTo session ⟨[(Bytes.ofText "id", v)]⟩).putText "err"
        "request has no op").withStatus [.error, .unknownOp, .done]] := rfl
  refine ⟨by rw [read], _, said id ▸ List.mem_singleton_self _, ?_⟩
  refine not_read_back (((Belongs.reply session request).put (by decide)).withStatus) rfl ?_
  omega

end HostedRepl.Bridge
