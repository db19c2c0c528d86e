/-
Who owns a session.

A connection owns the sessions that were made for it: its default one, and one
for each text that it asked for and that named no session.

* `Role`, `Owned.at?`, `Owned.give`: the roles in which a connection owns
  sessions.
* `Owns`: a connection owns a session in a role.
* `Registry.Resolution`, `resolve_sound`: what resolving a request can be. The
  session is registered in either case.
* `Registry.resolve_of_spelling`, `resolve_of_unknown`: a text that spells a
  registered id, in whatever way, names the session of that id; any other text
  has a session that stands in for it.
* `Registry.Distinct`, `Extends`: no id was drawn twice; more ids were drawn.
* `Registry.Kept.retireConnection_eq`: retiring a connection removes the sessions
  that it owns and no other one.
* `Registry.Kept`: the sessions of connections are owned once, and no id is
  registered or retired twice; `Kept.resolve`, `Kept.retireConnection` and the
  others: each operation keeps this.
* `Registry.Gone`: an id that was drawn and is not registered; it never comes
  back.
-/
import Mathlib.Tactic
import HostedRepl.Proofs.Session.Registry

namespace HostedRepl

/-! ### Tables -/

namespace Table

variable {α : Type}

lemma mem_keys_set {t : Table α} {key k : String} {a : α} (h : k ∈ (t.set key a).map Prod.fst) :
    k = key ∨ k ∈ t.map Prod.fst := by
  induction t with
  | nil => exact .inl (by simpa [set] using h)
  | cons e rest ih =>
      obtain ⟨l, b⟩ := e
      rw [set] at h
      split at h
      · rcases List.mem_cons.mp h with rfl | h
        · exact .inl rfl
        · exact .inr (List.mem_cons_of_mem _ h)
      · rcases List.mem_cons.mp h with rfl | h
        · exact .inr (List.mem_cons_self ..)
        · exact (ih h).imp_right (List.mem_cons_of_mem _)

/-- Putting a value in gives no key twice. -/
lemma nodup_keys_set {t : Table α} (h : (t.map Prod.fst).Nodup) (key : String) (a : α) :
    ((t.set key a).map Prod.fst).Nodup := by
  induction t with
  | nil => simp [set]
  | cons e rest ih =>
      obtain ⟨k, b⟩ := e
      obtain ⟨new, rest_nodup⟩ := List.nodup_cons.mp h
      rw [set]
      split
      · next same =>
        subst same
        exact h
      · next other =>
        refine List.nodup_cons.mpr ⟨fun mem => ?_, ih rest_nodup⟩
        exact (mem_keys_set mem).elim other new

/-- In a table without repeated keys an entry is found under its key. -/
lemma find?_eq_some_iff {t : Table α} (h : (t.map Prod.fst).Nodup) {key : String} {a : α} :
    t.find? key = some a ↔ (key, a) ∈ t := by
  induction t with
  | nil => simp [find?]
  | cons e rest ih =>
      obtain ⟨k, b⟩ := e
      obtain ⟨new, rest_nodup⟩ := List.nodup_cons.mp h
      rw [find?_cons, List.mem_cons]
      by_cases same : key = k
      · subst same
        have absent : (key, a) ∉ rest := fun mem =>
          new (List.mem_map.mpr ⟨_, mem, rfl⟩)
        simp [absent, eq_comm]
      · simp [same, ih rest_nodup]

end Table

/-! ### Roles -/

/-- What a session is to the connection that owns it. -/
inductive Role where
  /-- The session of requests that name none. -/
  | default
  /-- The session in place of the one that was asked for with this text. -/
  | standIn (requested : String)
  deriving DecidableEq

namespace Owned

variable {o : Owned} {role role' : Role} {id : SessionId}

/-- The session in a role. -/
def at? (o : Owned) : Role → Option SessionId
  | .default => o.default
  | .standIn requested => o.standIns.find? requested

/-- Give a session a role, in place of the one that had it. -/
def give (o : Owned) (role : Role) (id : SessionId) : Owned :=
  match role with
  | .default => { o with default := some id }
  | .standIn requested => { o with standIns := o.standIns.set requested id }

/-- No text has two sessions. -/
def Keyed (o : Owned) : Prop := (o.standIns.map Prod.fst).Nodup

lemma at?_none (role : Role) : Owned.none.at? role = Option.none := by cases role <;> rfl

lemma keyed_none : Owned.none.Keyed := List.nodup_nil

lemma at?_give : (o.give role id).at? role' = if role' = role then some id else o.at? role' := by
  cases role with
  | default => cases role' <;> simp [give, at?]
  | standIn requested =>
      cases role' with
      | default => simp [give, at?]
      | standIn requested' => simp [give, at?, Table.find?_set]

lemma Keyed.give (h : o.Keyed) (role : Role) (id : SessionId) : (o.give role id).Keyed := by
  cases role with
  | default => exact h
  | standIn requested => exact Table.nodup_keys_set h requested id

/-- The sessions of a connection are those in its roles. -/
lemma Keyed.mem_ids (h : o.Keyed) : id ∈ o.ids ↔ ∃ role, o.at? role = some id := by
  rw [ids, List.mem_append, Option.mem_toList, List.mem_map]
  constructor
  · rintro (own | ⟨⟨requested, id⟩, mem, rfl⟩)
    · exact ⟨.default, own⟩
    · exact ⟨.standIn requested, (Table.find?_eq_some_iff h).mpr mem⟩
  · rintro ⟨role, own⟩
    cases role with
    | default => exact .inl own
    | standIn requested => exact .inr ⟨_, (Table.find?_eq_some_iff h).mp own, rfl⟩

/-- If no session has two roles, no session is listed twice. -/
lemma Keyed.nodup_ids (h : o.Keyed)
    (once : ∀ role role' id, o.at? role = some id → o.at? role' = some id → role = role') :
    o.ids.Nodup := by
  have standIns : (o.standIns.map Prod.snd).Nodup := by
    refine List.Nodup.map_on (fun e he e' he' same => ?_) (List.Nodup.of_map _ h)
    have found (e) (he : e ∈ o.standIns) : o.at? (.standIn e.1) = some e.2 :=
      (Table.find?_eq_some_iff h).mpr he
    have role := once _ _ _ (found e he) (same ▸ found e' he')
    exact Prod.ext (Role.standIn.inj role) same
  rw [ids]
  cases own : o.default with
  | none => simpa using standIns
  | some id =>
      rw [Option.toList_some, List.singleton_append, List.nodup_cons]
      refine ⟨fun mem => ?_, standIns⟩
      obtain ⟨e, entry, rfl⟩ := List.mem_map.mp mem
      have role := once .default (.standIn e.1) _ own ((Table.find?_eq_some_iff h).mpr entry)
      cases role

end Owned

/-- A connection owns a session in a role. -/
def Owns (owned : Nat → Owned) (p : Nat × Role) (id : SessionId) : Prop :=
  (owned p.1).at? p.2 = some id

lemma not_owns_none (p : Nat × Role) (id : SessionId) : ¬Owns (fun _ => .none) p id := by
  simp [Owns, Owned.at?_none]

/-- A connection that has ended owns nothing, and the others what they owned. -/
lemma owns_update_none {owned : Nat → Owned} {conn : Nat} {p : Nat × Role} {id : SessionId} :
    Owns (Function.update owned conn .none) p id ↔ p.1 ≠ conn ∧ Owns owned p id := by
  obtain ⟨c, role⟩ := p
  by_cases same : c = conn
  · subst same
    simp [Owns, Owned.at?_none]
  · simp [Owns, same]

/-- A connection is given a session in a role. -/
lemma owns_update_give {owned : Nat → Owned} {conn : Nat} {role : Role} {p : Nat × Role}
    {id new : SessionId} :
    Owns (Function.update owned conn ((owned conn).give role new)) p id ↔
      if p = (conn, role) then id = new else Owns owned p id := by
  obtain ⟨c, role'⟩ := p
  by_cases same : c = conn
  · subst same
    simp only [Owns, Function.update_self, Owned.at?_give, Prod.mk.injEq, true_and]
    split
    · rw [Option.some.injEq, eq_comm]
    · rfl
  · simp [Owns, same]

/-- Changing one connection leaves the texts of all others apart. -/
lemma keyed_update {owned : Nat → Owned} {conn : Nat} {o : Owned} (h : ∀ c, (owned c).Keyed)
    (ho : o.Keyed) (c : Nat) : (Function.update owned conn o c).Keyed := by
  by_cases same : c = conn
  · rwa [same, Function.update_self]
  · rw [Function.update_of_ne same]
    exact h c

namespace Registry

variable {r : Registry} {o : Owned} {owned : Nat → Owned} {id k : SessionId} {conn : Nat}

/-! ### Resolving -/

/-- What resolving a request on a connection can be: a session that is registered, or a new one in
a role of which no session is registered. -/
inductive Resolution (r : Registry) (o : Owned) : SessionId → Registry → Owned → Prop where
  | known {id : SessionId} : id ∈ r.ids → Resolution r o id r o
  | made (role : Role) : (∀ id, o.at? role = some id → id ∉ r.ids) →
      Resolution r o (r.create .connection).1 (r.create .connection).2
        (o.give role (r.create .connection).1)

lemma contains_iff : r.contains id = true ↔ id ∈ r.ids := List.contains_iff_mem

/-- A session that is found and registered. -/
lemma mem_ids_of_filter {found : Option SessionId} (h : found.filter r.contains = some id) :
    id ∈ r.ids := by
  obtain ⟨-, registered⟩ := Option.filter_eq_some_iff.mp h
  exact contains_iff.mp registered

/-- A role of which no registered session is found. -/
lemma vacant_of_filter {role : Role} (h : (o.at? role).filter r.contains = none) :
    ∀ id, o.at? role = some id → id ∉ r.ids := by
  intro id own registered
  have := Option.filter_eq_none_iff.mp h id own
  exact this (contains_iff.mpr registered)

/-- **What resolving can be.** -/
theorem resolve_sound (r : Registry) (o : Owned) (requested : Option String) :
    Resolution r o (r.resolve o requested).1 (r.resolve o requested).2.1
      (r.resolve o requested).2.2 := by
  cases requested with
  | none =>
      rw [resolve, resolveDefault]
      split
      · next found => exact .known (mem_ids_of_filter found)
      · next vacant => exact .made .default (vacant_of_filter vacant)
  | some requested =>
      rw [resolve]
      split
      · next found => exact .known (mem_ids_of_filter found)
      · rw [resolveUnknown]
        split
        · next found => exact .known (mem_ids_of_filter found)
        · next vacant => exact .made (.standIn requested) (vacant_of_filter vacant)

/-- A resolved session is registered. -/
lemma Resolution.registered {r' : Registry} {o' : Owned} (h : Resolution r o id r' o') :
    id ∈ r'.ids := by
  cases h with
  | known registered => exact registered
  | made role vacant => exact (mem_ids_create .connection).mpr (.inr rfl)

/-- Resolving removes no session. -/
lemma Resolution.subset {r' : Registry} {o' : Owned} (h : Resolution r o id r' o') :
    r.ids ⊆ r'.ids := by
  cases h with
  | known registered => exact List.Subset.refl _
  | made role vacant => exact fun k mem => (mem_ids_create .connection).mpr (.inl mem)

/-- Resolving makes one session at most. -/
lemma Resolution.drawn_le {r' : Registry} {o' : Owned} (h : Resolution r o id r' o') :
    r'.drawn ≤ r.drawn + 1 := by
  cases h with
  | known registered => exact Nat.le_succ _
  | made role vacant => exact le_refl _

/-- A registered session keeps its role. -/
lemma Resolution.own_of_registered {r' : Registry} {o' : Owned} (h : Resolution r o id r' o')
    {role : Role} (own : o.at? role = some k) (registered : k ∈ r.ids) : o'.at? role = some k := by
  cases h with
  | known _ => exact own
  | made role' vacant =>
      have other : role ≠ role' := by
        rintro rfl
        exact vacant k own registered
      rw [Owned.at?_give, if_neg other, own]

/-- A session that was not registered has just been made. -/
lemma resolve_of_not_mem {requested : Option String} (new : (r.resolve o requested).1 ∉ r.ids) :
    (r.resolve o requested).1 = (r.create .connection).1 := by
  have resolved := resolve_sound r o requested
  generalize r.resolve o requested = found at new resolved ⊢
  obtain ⟨session, r', o'⟩ := found
  cases resolved with
  | known registered => exact absurd registered new
  | made role vacant => rfl

/-! ### Sessions by their texts -/

section

variable {text : String}

/-- A text that spells a registered id, in whatever way, is resolved to that id. -/
lemma resolve_of_spelling (spells : SessionId.parse? text = some id) (registered : id ∈ r.ids)
    (o : Owned) : r.resolve o (some text) = (id, r, o) := by
  have found : (SessionId.parse? text).filter r.contains = some id := by
    rw [spells, Option.filter_some, if_pos (contains_iff.mpr registered)]
  rw [resolve, found]

/-- A text that spells no registered id is resolved to the session that stands in for it. -/
lemma resolve_of_unknown (unknown : ∀ id ∈ r.ids, SessionId.parse? text ≠ some id) (o : Owned) :
    r.resolve o (some text) = r.resolveUnknown o text := by
  have absent : (SessionId.parse? text).filter r.contains = none := by
    refine Option.filter_eq_none_iff.mpr fun id spells registered => ?_
    exact unknown id (contains_iff.mp registered) spells
  rw [resolve, absent]

/-- A registered session that stands in for a text is found again. -/
lemma resolveUnknown_of_own (own : o.at? (.standIn text) = some id) (registered : id ∈ r.ids) :
    r.resolveUnknown o text = (id, r, o) := by
  have found : (o.standIns.find? text).filter r.contains = some id :=
    Option.filter_eq_some_iff.mpr ⟨own, contains_iff.mpr registered⟩
  rw [resolveUnknown, found]

/-- From then on it stands in for the text. -/
lemma own_resolveUnknown (r : Registry) (o : Owned) (text : String) :
    (r.resolveUnknown o text).2.2.at? (.standIn text) = some (r.resolveUnknown o text).1 := by
  rw [resolveUnknown]
  split
  · next id found => exact (Option.filter_eq_some_iff.mp found).1
  · change (o.give (.standIn text) (r.create .connection).1).at? (.standIn text) = _
    exact Owned.at?_give.trans (if_pos rfl)

end

/-! ### Retiring -/

/-- Retiring sessions one after another removes them, and keeps those aside that were
registered. -/
lemma foldl_retire (r : Registry) (ids : List SessionId) (nodup : ids.Nodup) :
    ids.foldl retire r = { r with
      sessions := r.sessions.filter fun s => s.id ∉ ids
      retired := r.retired ++ ids.filter r.contains } := by
  induction ids generalizing r with
  | nil => simp
  | cons id ids ih =>
      obtain ⟨new, rest⟩ := List.nodup_cons.mp nodup
      rw [List.foldl_cons, ih _ rest, retire]
      by_cases registered : r.contains id = true
      · -- the sessions after the first one are registered as before
        have same : ids.filter (contains { r.remove id with retired := r.retired ++ [id] }) =
            ids.filter r.contains := by
          refine List.filter_congr fun k hk => ?_
          have other : k ≠ id := fun eq => new (eq ▸ hk)
          rw [Bool.eq_iff_iff, contains_iff, contains_iff]
          exact mem_ids_remove.trans (and_iff_left other)
        rw [if_pos registered, same, List.filter_cons_of_pos registered]
        simp [remove, List.filter_filter, Bool.and_comm, bne, beq_eq_decide]
      · have absent : ∀ s ∈ r.sessions, s.id ≠ id := fun s hs eq =>
          registered (contains_iff.mpr (eq ▸ List.mem_map_of_mem hs))
        rw [if_neg registered, List.filter_cons_of_neg registered]
        congr 1
        refine List.filter_congr fun s hs => ?_
        simp [absent s hs]

/-! ### Drawn ids -/

/-- No id was drawn twice. -/
def Distinct (r : Registry) : Prop :=
  ∀ j < r.drawn, ∀ k < r.drawn, r.source j = r.source k → j = k

instance : Decidable r.Distinct :=
  inferInstanceAs (Decidable (∀ j < r.drawn, ∀ k < r.drawn, r.source j = r.source k → j = k))

/-- The registry draws from the same source, and may have drawn more. -/
structure Extends (r' r : Registry) : Prop where
  source : r'.source = r.source
  drawn : r.drawn ≤ r'.drawn

lemma Extends.refl (r : Registry) : r.Extends r := ⟨rfl, le_refl _⟩

lemma Extends.trans {r' r'' : Registry} (h : r''.Extends r') (h' : r'.Extends r) : r''.Extends r :=
  ⟨h.source.trans h'.source, h'.drawn.trans h.drawn⟩

lemma Extends.distinct {r' : Registry} (h : r'.Extends r) (distinct : r'.Distinct) :
    r.Distinct := by
  intro j hj k hk same
  rw [← h.source] at same
  exact distinct j (hj.trans_le h.drawn) k (hk.trans_le h.drawn) same

lemma extends_create (origin : Origin) : (r.create origin).2.Extends r := ⟨rfl, Nat.le_succ _⟩

/-- A new id was not drawn before. -/
lemma Distinct.new_create {origin : Origin} (h : (r.create origin).2.Distinct) :
    ¬∃ k < r.drawn, r.source k = (r.create origin).1 := by
  rintro ⟨k, lt, same⟩
  have := h k (Nat.lt_succ_of_lt lt) r.drawn (Nat.lt_succ_self _) same
  omega

lemma Resolution.extends {r' : Registry} {o' : Owned} (h : Resolution r o id r' o') :
    r'.Extends r := by
  cases h with
  | known registered => exact .refl r
  | made role vacant => exact extends_create .connection

/-- Resolving retires nothing. -/
lemma Resolution.retired {r' : Registry} {o' : Owned} (h : Resolution r o id r' o') :
    r'.retired = r.retired := by
  cases h with
  | known registered => rfl
  | made role vacant => rfl

lemma extends_retireConnection (r : Registry) (o : Owned) :
    (r.retireConnection o).Extends r := by
  rw [retireConnection]
  generalize o.ids = ids
  induction ids generalizing r with
  | nil => exact .refl r
  | cons id ids ih =>
      refine (ih (r.retire id)).trans ?_
      rw [retire]
      split
      · exact ⟨rfl, le_refl _⟩
      · exact .refl r

/-! ### Kept sessions -/

/-- The sessions of connections are owned, each by one connection in one role; a registered session
that is owned is one of these; and no id is registered twice, retired twice, or both. -/
structure Kept (r : Registry) (owned : Nat → Owned) : Prop where
  keyed : ∀ conn, (owned conn).Keyed
  drawn : ∀ id, (r.Knows id ∨ ∃ p, Owns owned p id) → ∃ k < r.drawn, r.source k = id
  nodup : r.ids.Nodup
  nodup_retired : r.retired.Nodup
  apart : ∀ id ∈ r.ids, id ∉ r.retired
  belongs : ∀ s ∈ r.sessions, s.origin = .connection ↔ ∃ p, Owns owned p s.id
  once : ∀ p q id, Owns owned p id → Owns owned q id → p = q

namespace Kept

lemma start (source : Nat → SessionId) : Kept (empty source) fun _ => .none where
  keyed _ := Owned.keyed_none
  drawn id h := by
    rcases h with (mem | mem) | ⟨p, own⟩
    · exact absurd mem List.not_mem_nil
    · exact absurd mem List.not_mem_nil
    · exact absurd own (not_owns_none p id)
  nodup := List.nodup_nil
  nodup_retired := List.nodup_nil
  apart _ h := absurd h List.not_mem_nil
  belongs _ h := absurd h List.not_mem_nil
  once p _ id own _ := absurd own (not_owns_none p id)

/-- A new id is neither registered nor retired, and nobody owns it. -/
lemma fresh (h : Kept r owned) {origin : Origin} (distinct : (r.create origin).2.Distinct) :
    ¬r.Knows (r.create origin).1 ∧ ∀ p, ¬Owns owned p (r.create origin).1 := by
  have new := distinct.new_create
  exact ⟨fun known => new (h.drawn _ (.inl known)), fun p own => new (h.drawn _ (.inr ⟨p, own⟩))⟩

/-- A new session is registered. If it is one of a connection, it is given a role there of which no
session was registered. -/
lemma create (h : Kept r owned) {origin : Origin} (distinct : (r.create origin).2.Distinct)
    {owned' : Nat → Owned} (keyed : ∀ conn, (owned' conn).Keyed)
    (owns : ∀ p id, Owns owned' p id → Owns owned p id ∨ id = (r.create origin).1)
    (lost : ∀ p id, Owns owned p id → ¬Owns owned' p id → id ∉ r.ids)
    (new : origin = .connection ↔ ∃ p, Owns owned' p (r.create origin).1)
    (once : ∀ p q, Owns owned' p (r.create origin).1 → Owns owned' q (r.create origin).1 → p = q) :
    Kept (r.create origin).2 owned' := by
  obtain ⟨unknown, unowned⟩ := h.fresh distinct
  refine ⟨keyed, fun id hid => ?_, ?_, h.nodup_retired, fun id hid => ?_, fun s hs => ?_, ?_⟩
  · have old : (∃ k < r.drawn, r.source k = id) ∨ id = (r.create origin).1 := by
      rcases hid with (mem | retired) | ⟨p, own⟩
      · exact ((mem_ids_create origin).mp mem).imp_left fun mem => h.drawn id (.inl (.inl mem))
      · exact .inl (h.drawn id (.inl (.inr retired)))
      · exact (owns p id own).imp_left fun own => h.drawn id (.inr ⟨p, own⟩)
    rcases old with ⟨k, lt, same⟩ | rfl
    · exact ⟨k, Nat.lt_succ_of_lt lt, same⟩
    · exact ⟨r.drawn, Nat.lt_succ_self _, rfl⟩
  · have ids : (r.create origin).2.ids = r.ids ++ [(r.create origin).1] := by
      simp [Registry.create, Registry.ids]
    rw [ids]
    exact h.nodup.append (List.nodup_singleton _) (by simpa using fun mem => unknown (.inl mem))
  · rcases (mem_ids_create origin).mp hid with mem | rfl
    · exact h.apart id mem
    · exact fun mem => unknown (.inr mem)
  · rcases List.mem_append.mp hs with old | last
    · have registered : s.id ∈ r.ids := List.mem_map_of_mem old
      rw [h.belongs s old]
      constructor
      · rintro ⟨p, own⟩
        exact ⟨p, not_not.mp fun gone => lost p s.id own gone registered⟩
      · rintro ⟨p, own⟩
        exact ⟨p, (owns p s.id own).resolve_right fun eq => unknown (.inl (eq ▸ registered))⟩
    · rw [List.mem_singleton.mp last]
      exact new
  · intro p q id hp hq
    rcases owns p id hp with own | rfl
    · rcases owns q id hq with own' | rfl
      · exact h.once p q id own own'
      · exact absurd own (unowned p)
    · exact once p q hp hq

lemma cloned (h : Kept r owned) (distinct : (r.create .cloned).2.Distinct) :
    Kept (r.create .cloned).2 owned := by
  have unowned := (h.fresh distinct).2
  refine h.create distinct h.keyed (fun p id own => .inl own) (fun p id own gone => absurd own gone)
    ?_ fun p _ own _ => absurd own (unowned p)
  exact ⟨fun eq => absurd eq (by decide), fun ⟨p, own⟩ => absurd own (unowned p)⟩

/-- A connection is given a new session in a role. -/
lemma made (h : Kept r owned) (distinct : (r.create .connection).2.Distinct) (conn : Nat)
    (role : Role) (vacant : ∀ id, (owned conn).at? role = some id → id ∉ r.ids) :
    Kept (r.create .connection).2
      (Function.update owned conn ((owned conn).give role (r.create .connection).1)) := by
  have unowned := (h.fresh distinct).2
  have role_of {p} (own : Owns (Function.update owned conn
      ((owned conn).give role (r.create .connection).1)) p (r.create .connection).1) :
      p = (conn, role) := by
    by_contra other
    rw [owns_update_give, if_neg other] at own
    exact unowned p own
  refine h.create distinct (keyed_update h.keyed ((h.keyed conn).give role _)) (fun p id own => ?_)
    (fun p id own gone => ?_) ?_ fun p q hp hq => (role_of hp).trans (role_of hq).symm
  · rw [owns_update_give] at own
    split at own
    · exact .inr own
    · exact .inl own
  · rw [owns_update_give] at gone
    split at gone
    · next eq =>
      subst eq
      exact vacant id own
    · exact absurd own gone
  · exact ⟨fun _ => ⟨(conn, role), owns_update_give.mpr (by rw [if_pos rfl])⟩, fun _ => rfl⟩

/-- Resolving a request keeps the sessions of connections owned. -/
theorem resolve (h : Kept r owned) (conn : Nat) (requested : Option String)
    (distinct : (r.resolve (owned conn) requested).2.1.Distinct) :
    Kept (r.resolve (owned conn) requested).2.1
      (Function.update owned conn (r.resolve (owned conn) requested).2.2) := by
  have sound := resolve_sound r (owned conn) requested
  generalize r.resolve (owned conn) requested = resolved at sound distinct
  obtain ⟨id, r', o'⟩ := resolved
  dsimp only at sound distinct ⊢
  cases sound with
  | known registered => rwa [Function.update_eq_self]
  | made role vacant => exact h.made distinct conn role vacant

/-- What is registered and owned is what was before, or less. A session that is still registered is
still owned. -/
structure Fewer (r r' : Registry) (owned owned' : Nat → Owned) : Prop where
  drawn : r'.drawn = r.drawn
  source : r'.source = r.source
  sessions : List.Sublist (r'.sessions.map fun s => (s.id, s.origin))
    (r.sessions.map fun s => (s.id, s.origin))
  keyed : ∀ conn, (owned' conn).Keyed
  owns : ∀ p id, Owns owned' p id → Owns owned p id
  left : ∀ p id, id ∈ r'.ids → Owns owned p id → Owns owned' p id

lemma Fewer.ids {r' : Registry} {owned' : Nat → Owned} (f : Fewer r r' owned owned') :
    List.Sublist r'.ids r.ids := by
  have := f.sessions.map Prod.fst
  simpa [Registry.ids, Function.comp_def] using this

lemma fewer (h : Kept r owned) {r' : Registry} {owned' : Nat → Owned}
    (f : Fewer r r' owned owned') (nodup_retired : r'.retired.Nodup)
    (apart : ∀ id ∈ r'.ids, id ∉ r'.retired) (known : ∀ id ∈ r'.retired, r.Knows id) :
    Kept r' owned' where
  keyed := f.keyed
  drawn id hid := by
    rw [f.drawn, f.source]
    refine h.drawn id ?_
    rcases hid with (mem | retired) | ⟨p, own⟩
    · exact .inl (.inl (f.ids.subset mem))
    · exact .inl (known id retired)
    · exact .inr ⟨p, f.owns p id own⟩
  nodup := h.nodup.sublist f.ids
  nodup_retired := nodup_retired
  apart := apart
  belongs s hs := by
    have registered : s.id ∈ r'.ids := List.mem_map_of_mem hs
    have mem := f.sessions.subset (List.mem_map_of_mem (f := fun s => (s.id, s.origin)) hs)
    obtain ⟨s', hs', same⟩ := List.mem_map.mp mem
    obtain ⟨id, origin⟩ := Prod.mk.inj same
    rw [← origin, h.belongs s' hs', id]
    exact ⟨fun ⟨p, own⟩ => ⟨p, f.left p s.id registered own⟩,
      fun ⟨p, own⟩ => ⟨p, f.owns p s.id own⟩⟩
  once p q id hp hq := h.once p q id (f.owns p id hp) (f.owns q id hq)

lemma remove (h : Kept r owned) (k : SessionId) : Kept (r.remove k) owned := by
  have f : Fewer r (r.remove k) owned owned :=
    ⟨rfl, rfl, List.filter_sublist.map _, h.keyed, fun _ _ own => own, fun _ _ _ own => own⟩
  refine h.fewer f h.nodup_retired (fun id hid => ?_) fun id hid => .inr hid
  exact h.apart id (f.ids.subset hid)

lemma noteOp (h : Kept r owned) (k : SessionId) (op : Option Wire.Value) :
    Kept (r.noteOp k op) owned := by
  have same : (r.noteOp k op).sessions.map (fun s => (s.id, s.origin)) =
      r.sessions.map fun s => (s.id, s.origin) := by
    rw [Registry.noteOp, List.map_map]
    refine List.map_congr_left fun s _ => ?_
    rw [Function.comp_apply]
    split <;> rfl
  have f : Fewer r (r.noteOp k op) owned owned :=
    ⟨rfl, rfl, same ▸ List.Sublist.refl _, h.keyed, fun _ _ own => own, fun _ _ _ own => own⟩
  refine h.fewer f h.nodup_retired (fun id hid => ?_) fun id hid => .inr hid
  exact h.apart id (f.ids.subset hid)

lemma takeRetired (h : Kept r owned) : Kept r.takeRetired.2 owned :=
  h.fewer ⟨rfl, rfl, List.Sublist.refl _, h.keyed, fun _ _ own => own, fun _ _ _ own => own⟩
    List.nodup_nil (fun _ _ => List.not_mem_nil) fun _ hid => absurd hid List.not_mem_nil

/-- No connection lists a session twice. -/
lemma nodup_ids (h : Kept r owned) (conn : Nat) : (owned conn).ids.Nodup :=
  (h.keyed conn).nodup_ids fun role role' id own own' =>
    congrArg Prod.snd (h.once (conn, role) (conn, role') id own own')

lemma mem_ids (h : Kept r owned) : id ∈ (owned conn).ids ↔ ∃ role, Owns owned (conn, role) id :=
  (h.keyed conn).mem_ids

/-- **Retiring a connection** removes the sessions that it owns and no other one. Those of them that
were registered are kept aside. -/
theorem retireConnection_eq (h : Kept r owned) (conn : Nat) :
    r.retireConnection (owned conn) = { r with
      sessions := r.sessions.filter fun s => s.id ∉ (owned conn).ids
      retired := r.retired ++ (owned conn).ids.filter r.contains } :=
  foldl_retire r _ (h.nodup_ids conn)

/-- What is registered after a connection has ended. -/
lemma mem_ids_retireConnection (h : Kept r owned) :
    id ∈ (r.retireConnection (owned conn)).ids ↔ id ∈ r.ids ∧ id ∉ (owned conn).ids := by
  rw [h.retireConnection_eq]
  simp only [Registry.ids, List.mem_map, List.mem_filter, decide_eq_true_eq]
  constructor
  · rintro ⟨s, ⟨mem, other⟩, rfl⟩
    exact ⟨⟨s, mem, rfl⟩, other⟩
  · rintro ⟨⟨s, mem, rfl⟩, other⟩
    exact ⟨s, ⟨mem, other⟩, rfl⟩

/-- Retiring a connection leaves the sessions of all others owned. -/
theorem retireConnection (h : Kept r owned) (conn : Nat) :
    Kept (r.retireConnection (owned conn)) (Function.update owned conn .none) := by
  have result := h.retireConnection_eq conn
  have retired : (r.retireConnection (owned conn)).retired =
      r.retired ++ (owned conn).ids.filter r.contains := by rw [result]
  have f : Fewer r (r.retireConnection (owned conn)) owned (Function.update owned conn .none) := by
    refine ⟨by rw [result], by rw [result], ?_, keyed_update h.keyed Owned.keyed_none,
      fun p id own => (owns_update_none.mp own).2, fun p id registered own => ?_⟩
    · rw [result]
      exact List.filter_sublist.map _
    · refine owns_update_none.mpr ⟨?_, own⟩
      rintro rfl
      exact (h.mem_ids_retireConnection.mp registered).2 (h.mem_ids.mpr ⟨p.2, own⟩)
  refine h.fewer f ?_ (fun id registered => ?_) fun id mem => ?_
  · rw [retired]
    refine h.nodup_retired.append ((h.nodup_ids conn).filter _) fun id mem mem' => ?_
    exact h.apart id (contains_iff.mp (List.mem_filter.mp mem').2) mem
  · obtain ⟨mem, other⟩ := h.mem_ids_retireConnection.mp registered
    rw [retired, List.mem_append, not_or]
    exact ⟨h.apart id mem, fun mem' => other (List.mem_filter.mp mem').1⟩
  · rw [retired, List.mem_append] at mem
    exact mem.elim .inr fun mem => .inl (contains_iff.mp (List.mem_filter.mp mem).2)

end Kept

/-! ### Ids that are gone -/

/-- The id was drawn, and no session is registered under it. -/
structure Gone (r : Registry) (id : SessionId) : Prop where
  drawn : ∃ k < r.drawn, r.source k = id
  absent : id ∉ r.ids

namespace Gone

/-- A new session has another id. -/
lemma create (h : r.Gone id) {origin : Origin} (distinct : (r.create origin).2.Distinct) :
    (r.create origin).2.Gone id := by
  obtain ⟨k, lt, same⟩ := h.drawn
  refine ⟨⟨k, Nat.lt_succ_of_lt lt, same⟩, fun mem => ?_⟩
  rcases (mem_ids_create origin).mp mem with mem | new
  · exact h.absent mem
  · exact distinct.new_create ⟨k, lt, same.trans new⟩

lemma remove (h : r.Gone id) (k : SessionId) : (r.remove k).Gone id :=
  ⟨h.drawn, fun mem => h.absent (mem_ids_remove.mp mem).1⟩

lemma noteOp (h : r.Gone id) (k : SessionId) (op : Option Wire.Value) : (r.noteOp k op).Gone id :=
  ⟨h.drawn, by rw [ids_noteOp]; exact h.absent⟩

lemma resolve (h : r.Gone id) {o : Owned} {requested : Option String}
    (distinct : (r.resolve o requested).2.1.Distinct) : (r.resolve o requested).2.1.Gone id := by
  have sound := resolve_sound r o requested
  generalize r.resolve o requested = resolved at sound distinct
  obtain ⟨k, r', o'⟩ := resolved
  dsimp only at sound distinct ⊢
  cases sound with
  | known registered => exact h
  | made role vacant => exact h.create distinct

lemma retireConnection (h : r.Gone id) (kept : Kept r owned) (conn : Nat) :
    (r.retireConnection (owned conn)).Gone id := by
  refine ⟨?_, fun mem => h.absent (kept.mem_ids_retireConnection.mp mem).1⟩
  rw [kept.retireConnection_eq]
  exact h.drawn

end Gone

namespace Kept

/-- A session that a connection owns stays its own when a session is resolved, or was no longer
registered. -/
lemma own_or_gone_resolve (h : Kept r owned) {p : Nat × Role} {requested : Option String}
    (own : Owns owned p id) (distinct : (r.resolve (owned conn) requested).2.1.Distinct) :
    Owns (Function.update owned conn (r.resolve (owned conn) requested).2.2) p id ∨
      (r.resolve (owned conn) requested).2.1.Gone id := by
  have sound := resolve_sound r (owned conn) requested
  generalize r.resolve (owned conn) requested = resolved at sound distinct
  obtain ⟨k, r', o'⟩ := resolved
  dsimp only at sound distinct ⊢
  cases sound with
  | known registered =>
      rw [Function.update_eq_self]
      exact .inl own
  | made role vacant =>
      by_cases same : p = (conn, role)
      · subst same
        have gone : r.Gone id := ⟨h.drawn id (.inr ⟨_, own⟩), vacant id own⟩
        exact .inr (gone.create distinct)
      · exact .inl (owns_update_give.mpr (by rwa [if_neg same]))

/-- A session that a connection owns stays its own when another one ends, and is gone when this
one does. -/
lemma own_or_gone_retireConnection (h : Kept r owned) {p : Nat × Role} (own : Owns owned p id)
    (conn : Nat) :
    Owns (Function.update owned conn .none) p id ∨
      (r.retireConnection (owned conn)).Gone id := by
  by_cases same : p.1 = conn
  · have mine : id ∈ (owned conn).ids := h.mem_ids.mpr ⟨p.2, same ▸ own⟩
    have drawn := h.drawn id (.inr ⟨p, own⟩)
    refine .inr ⟨?_, fun registered => (h.mem_ids_retireConnection.mp registered).2 mine⟩
    rw [h.retireConnection_eq]
    exact drawn
  · exact .inl (owns_update_none.mpr ⟨same, own⟩)

/-- What is removed with a connection is retired. -/
lemma mem_retired_retireConnection (h : Kept r owned) (mem : id ∈ r.ids)
    (removed : id ∉ (r.retireConnection (owned conn)).ids) :
    id ∈ (r.retireConnection (owned conn)).retired := by
  have mine : id ∈ (owned conn).ids := by
    by_contra other
    exact removed (h.mem_ids_retireConnection.mpr ⟨mem, other⟩)
  rw [h.retireConnection_eq]
  exact List.mem_append_right _ (List.mem_filter.mpr ⟨mine, contains_iff.mpr mem⟩)

/-- A connection that ends takes no clone with it. -/
lemma cloned_mem_retireConnection (h : Kept r owned) {s : Session} (hs : s ∈ r.sessions)
    (cloned : s.origin = .cloned) (conn : Nat) :
    s ∈ (r.retireConnection (owned conn)).sessions := by
  rw [h.retireConnection_eq, List.mem_filter, decide_eq_true_eq]
  refine ⟨hs, fun mine => ?_⟩
  obtain ⟨role, own⟩ := h.mem_ids.mp mine
  have made := (h.belongs s hs).mpr ⟨_, own⟩
  rw [cloned] at made
  cases made

end Kept

end Registry

end HostedRepl
