import Architecture.Proofs.Cache.Entries
import Mathlib.Data.List.Induction

/-!
# Calls that share a cache

A call for references takes up to three steps: it looks its key up, computes the
set if nothing is there, and stores the set unless another call has stored one
meanwhile. Calls of any number of callers are made and advanced in any order,
and the cache is cleared in between at any time.

The invariant covers the stored sets and the sets that calls have computed and
not yet stored: each is the references of a query that was made.
-/

namespace Architecture

/-- How far a call has come. -/
inductive Progress where
  | asked
  | missed
  | computed (set : ReferenceSet)
  | answered (set : ReferenceSet)
deriving DecidableEq

/-- A call of one caller: the type and the root types are the caller's own. -/
structure Call where
  query : ReferenceQuery
  progress : Progress := .asked
deriving DecidableEq

/-- A cache and all calls that were made on it. -/
structure SharedCache (κ : Type) where
  cache : Cache κ := {}
  calls : List Call := []

inductive CacheEvent where
  /-- Somebody makes a call. -/
  | call (q : ReferenceQuery)
  /-- The call at a position takes its next step. -/
  | advance (position : Nat)
  | clear
deriving DecidableEq

/-- The query that an event brings in. -/
def CacheEvent.query? : CacheEvent → Option ReferenceQuery
  | .call q => some q
  | .advance _ | .clear => none

namespace Call

variable {κ : Type} [DecidableEq κ]

/-- The next step of a call; a call that is answered takes none. -/
def advance (key : ReferenceQuery → κ) (call : Call) (c : Cache κ) : Call × Cache κ :=
  match call.progress with
  | .asked =>
    match c.get? (key call.query) with
    | some stored => ({ call with progress := .answered stored }, c)
    | none => ({ call with progress := .missed }, c)
  | .missed => ({ call with progress := .computed call.query.references }, c)
  | .computed set =>
    let (stored, next) := c.insertIfAbsent (key call.query) set
    ({ call with progress := .answered stored }, next)
  | .answered _ => (call, c)

/-- A set that a call holds is the references of its query. -/
def Right (call : Call) : Prop :=
  ∀ set, call.progress = .computed set ∨ call.progress = .answered set →
    set = call.query.references

variable {key : ReferenceQuery → κ} {queries : List ReferenceQuery} {c : Cache κ}

@[simp]
theorem advance_query (call : Call) (c : Cache κ) :
    (call.advance key c).1.query = call.query := by
  unfold advance
  split
  · split <;> rfl
  · rfl
  · rfl
  · rfl

/-- A step of a call keeps what is stored. It stores the set that the call has
computed, if nothing is stored under its key. -/
theorem advance_get?_eq_some_iff (call : Call) {k : κ} {set : ReferenceSet} :
    (call.advance key c).2.get? k = some set ↔
      c.get? k = some set ∨
        call.progress = .computed set ∧ key call.query = k ∧ c.get? k = none := by
  unfold advance
  split
  next progress =>
    split <;> simp [progress]
  next progress => simp [progress]
  next computed progress =>
    rw [Cache.get?_insertIfAbsent]
    split
    next same =>
      subst k
      cases found : c.get? (key call.query) with
      | some stored => simp [Cache.insertIfAbsent_of_some found]
      | none => simp [Cache.insertIfAbsent_of_none found, progress]
    next differs => simp [Ne.symm differs]
  next progress => simp [progress]

theorem advance_right {call : Call} (right : call.Right) (asked : call.query ∈ queries)
    (sound : c.Sound key queries) (collisionFree : CollisionFree key queries) :
    (call.advance key c).1.Right ∧ (call.advance key c).2.Sound key queries := by
  unfold advance
  split
  next =>
    split
    next stored found =>
      have own := sound.get?_key collisionFree asked found
      exact ⟨by simp [Right, own], sound⟩
    next => exact ⟨by simp [Right], sound⟩
  next => exact ⟨by simp [Right], sound⟩
  next set progress =>
    have own : set = call.query.references := right set (.inl progress)
    subst own
    have grown := sound.insertIfAbsent asked
    have returned : (c.insertIfAbsent (key call.query) call.query.references).1 =
        call.query.references := by
      apply grown.get?_key collisionFree asked
      rw [Cache.get?_insertIfAbsent, if_pos rfl]
    exact ⟨by simp [Right, returned], grown⟩
  next => exact ⟨right, sound⟩

end Call

namespace SharedCache

variable {κ : Type} [DecidableEq κ]

def step (key : ReferenceQuery → κ) (s : SharedCache κ) : CacheEvent → SharedCache κ
  | .call q => { s with calls := s.calls ++ [{ query := q }] }
  | .advance position =>
    match s.calls[position]? with
    | some call =>
      let (call, cache) := call.advance key s.cache
      { cache, calls := s.calls.set position call }
    | none => s
  | .clear => { s with cache := s.cache.clear }

theorem step_advance_of_some {key : ReferenceQuery → κ} {s : SharedCache κ} {position : Nat}
    {call : Call} (found : s.calls[position]? = some call) :
    s.step key (.advance position) =
      { cache := (call.advance key s.cache).2
        calls := s.calls.set position (call.advance key s.cache).1 } := by
  simp [step, found]

theorem step_advance_of_none {key : ReferenceQuery → κ} {s : SharedCache κ} {position : Nat}
    (missing : s.calls[position]? = none) : s.step key (.advance position) = s := by
  simp [step, missing]

def run (key : ReferenceQuery → κ) (s : SharedCache κ) (events : List CacheEvent) :
    SharedCache κ :=
  events.foldl (step key) s

/-- Undisturbed, the steps of a call are what answering its query does. -/
theorem run_undisturbed (key : ReferenceQuery → κ) (q : ReferenceQuery) (c : Cache κ) :
    run key { cache := c } [.call q, .advance 0, .advance 0, .advance 0] =
      { cache := ((q.answerBy key).run c).2
        calls := [{ query := q, progress := .answered ((q.answerBy key).run c).1 }] } := by
  rw [ReferenceQuery.answerBy_run]
  cases found : c.get? (key q) with
  | some stored =>
      simp [run, step, Call.advance, found, Cache.insertIfAbsent_of_some found]
  | none => simp [run, step, Call.advance, found]

/-- All stored sets come from the given queries, and all calls are on the way to
the right answer. -/
structure Right (key : ReferenceQuery → κ) (queries : List ReferenceQuery)
    (s : SharedCache κ) : Prop where
  cache : s.cache.Sound key queries
  asked : ∀ call ∈ s.calls, call.query ∈ queries
  calls : ∀ call ∈ s.calls, call.Right

variable {key : ReferenceQuery → κ} {queries : List ReferenceQuery} {s : SharedCache κ}

theorem right_empty (key : ReferenceQuery → κ) (queries : List ReferenceQuery) :
    ({} : SharedCache κ).Right key queries where
  cache := fun k set found => by simp at found
  asked := by simp
  calls := by simp

theorem step_right (right : s.Right key queries) (collisionFree : CollisionFree key queries)
    {event : CacheEvent} (made : ∀ q, event.query? = some q → q ∈ queries) :
    (s.step key event).Right key queries := by
  cases event with
  | call q =>
      refine ⟨right.cache, ?_, ?_⟩
      · intro call member
        rcases List.mem_append.mp member with old | new
        · exact right.asked call old
        · cases List.mem_singleton.mp new
          exact made q rfl
      · intro call member
        rcases List.mem_append.mp member with old | new
        · exact right.calls call old
        · cases List.mem_singleton.mp new
          simp [Call.Right]
  | advance position =>
      cases found : s.calls[position]? with
      | none =>
          rw [step_advance_of_none found]
          exact right
      | some call =>
          rw [step_advance_of_some found]
          have member := List.mem_of_getElem? found
          rcases Call.advance_right (right.calls call member) (right.asked call member)
            right.cache collisionFree with ⟨callRight, cacheSound⟩
          refine ⟨cacheSound, ?_, ?_⟩
          · intro other otherMember
            rcases List.mem_or_eq_of_mem_set otherMember with old | new
            · exact right.asked other old
            · rw [new, Call.advance_query]
              exact right.asked call member
          · intro other otherMember
            rcases List.mem_or_eq_of_mem_set otherMember with old | new
            · exact right.calls other old
            · rw [new]
              exact callRight
  | clear =>
      exact ⟨(right_empty key queries).cache, right.asked, right.calls⟩

theorem run_right (events : List CacheEvent) (right : s.Right key queries)
    (collisionFree : CollisionFree key queries)
    (made : ∀ q ∈ events.filterMap CacheEvent.query?, q ∈ queries) :
    (s.run key events).Right key queries := by
  induction events generalizing s with
  | nil => exact right
  | cons event rest inductionHypothesis =>
      have first : ∀ q, event.query? = some q → q ∈ queries := by
        intro q brings
        exact made q (List.mem_filterMap.mpr ⟨event, by simp, brings⟩)
      apply inductionHypothesis (step_right right collisionFree first)
      intro q later
      rcases List.mem_filterMap.mp later with ⟨other, member, brings⟩
      exact made q (List.mem_filterMap.mpr ⟨other, by simp [member], brings⟩)

/-- The event stores a set under a key where nothing is stored. -/
def Stores (key : ReferenceQuery → κ) (s : SharedCache κ) (event : CacheEvent) (k : κ)
    (set : ReferenceSet) : Prop :=
  ∃ position call, event = .advance position ∧ s.calls[position]? = some call ∧
    call.progress = .computed set ∧ key call.query = k ∧ s.cache.get? k = none

theorem step_get?_eq_some_iff (event : CacheEvent) {k : κ} {set : ReferenceSet} :
    (s.step key event).cache.get? k = some set ↔
      event ≠ .clear ∧ s.cache.get? k = some set ∨ Stores key s event k set := by
  cases event with
  | call q => simp [step, Stores]
  | advance position =>
      cases found : s.calls[position]? with
      | none => simp [step_advance_of_none found, Stores, found]
      | some call =>
          rw [step_advance_of_some found, Call.advance_get?_eq_some_iff]
          simp [Stores, found]
  | clear => simp [step, Stores, Cache.clear]

theorem run_append (before after : List CacheEvent) :
    s.run key (before ++ after) = (s.run key before).run key after :=
  List.foldl_append

/-- No event but clearing touches a stored set. -/
theorem run_get? {events : List CacheEvent} (kept : .clear ∉ events) {k : κ} {set : ReferenceSet}
    (stored : s.cache.get? k = some set) : (s.run key events).cache.get? k = some set := by
  induction events generalizing s with
  | nil => exact stored
  | cons event rest inductionHypothesis =>
      rw [List.mem_cons, not_or] at kept
      apply inductionHypothesis kept.2
      exact (step_get?_eq_some_iff event).mpr (.inl ⟨Ne.symm kept.1, stored⟩)

/-- What is stored under a key is the set of the first call that stored one there
since the cache was last cleared. -/
theorem run_get?_eq_some_iff (events : List CacheEvent) {k : κ} {set : ReferenceSet} :
    (run key {} events).cache.get? k = some set ↔
      ∃ before event after, events = before ++ event :: after ∧ .clear ∉ after ∧
        Stores key (run key {} before) event k set := by
  constructor
  · intro stored
    -- From the last event backwards: it kept the set, or it is the one that stored it.
    induction events using List.reverseRecOn with
    | nil => simp [run] at stored
    | append_singleton earlier last inductionHypothesis =>
        rw [run_append] at stored
        rcases (step_get?_eq_some_iff last).mp stored with ⟨kept, present⟩ | stores
        · rcases inductionHypothesis present with ⟨before, event, after, split, noClear, stores⟩
          refine ⟨before, event, after ++ [last], by simp [split], ?_, stores⟩
          simp [noClear, Ne.symm kept]
        · exact ⟨earlier, last, [], rfl, by simp, stores⟩
  · rintro ⟨before, event, after, rfl, noClear, stores⟩
    rw [run_append]
    exact run_get? noClear ((step_get?_eq_some_iff event).mpr (.inr stores))

/-- In every order of steps of any number of calls, and whenever the cache is
cleared, an answered call has the references of its own query, and a stored set
stays as the first call stored it until the cache is cleared. Keys must tell
apart the queries that are made. -/
theorem run_safe (key : ReferenceQuery → κ) (events : List CacheEvent)
    (collisionFree : CollisionFree key (events.filterMap CacheEvent.query?)) :
    (∀ call ∈ (run key {} events).calls, ∀ set, call.progress = .answered set →
        set = call.query.type.references call.query.roots) ∧
      (∀ before after k set, events = before ++ after → .clear ∉ after →
        (run key {} before).cache.get? k = some set →
          (run key {} events).cache.get? k = some set) ∧
      (∀ k set, (run key {} events).cache.get? k = some set ↔
        ∃ before event after, events = before ++ event :: after ∧ .clear ∉ after ∧
          Stores key (run key {} before) event k set) ∧
      ∀ (q : ReferenceQuery) (c : Cache κ),
        run key { cache := c } [.call q, .advance 0, .advance 0, .advance 0] =
          { cache := ((q.answerBy key).run c).2
            calls := [{ query := q, progress := .answered ((q.answerBy key).run c).1 }] } := by
  refine ⟨?_, ?_, fun k set => run_get?_eq_some_iff events, run_undisturbed key⟩
  · intro call member set answered
    have right := run_right events (right_empty key _) collisionFree fun q made => made
    exact right.calls call member set (.inr answered)
  · rintro before after k set rfl noClear stored
    rw [run_append]
    exact run_get? noClear stored

/-- A query for a derived type, which has a reference unless its base is a root. -/
def derivedQuery (roots : List String) : ReferenceQuery where
  type := {
    name := ⟨some "App", "Service"⟩, owner := "App", kind := .plainClass
    base := some (.named ⟨some "App", "Secret"⟩ "App" []) }
  roots

/-- Two callers race for one query, and a third asks for the same type with other
root types. The cache is cleared between the two that store. -/
def race : List CacheEvent :=
  [.call (derivedQuery []), .call (derivedQuery []), .advance 0, .advance 1, .advance 1,
    .call (derivedQuery ["App.Secret"]), .advance 0, .advance 0, .clear, .advance 2, .advance 1,
    .advance 2, .advance 2]

theorem run_safe_race :
    let key := ReferenceQuery.cacheKey fun q => q.roots.length.toUInt64
    CollisionFree key (race.filterMap CacheEvent.query?) ∧
      ∀ call ∈ (run key {} race).calls, ∀ set, call.progress = .answered set →
        set = call.query.type.references call.query.roots := by
  intro key
  have collisionFree : CollisionFree key (race.filterMap CacheEvent.query?) := by decide +kernel
  exact ⟨collisionFree, (run_safe key race collisionFree).1⟩

example :
    (run (ReferenceQuery.cacheKey fun q => q.roots.length.toUInt64) {} race).calls.map
      (fun call => call.progress) =
        [.answered { internal := [⟨⟨some "App", "Secret"⟩, "App"⟩] },
          .answered { internal := [⟨⟨some "App", "Secret"⟩, "App"⟩] }, .answered {}] := by
  decide +kernel

end SharedCache

end Architecture
