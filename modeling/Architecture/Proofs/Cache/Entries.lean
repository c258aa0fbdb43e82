import Architecture.References.Inquiry

/-!
# What a cache holds

Answering a query is the same as storing its references where nothing is
stored yet, so what `insertIfAbsent` does to each key describes every access.
-/

namespace Architecture

/-- Among the given queries, only equal ones share a key. -/
def CollisionFree {κ : Type} (key : ReferenceQuery → κ) (queries : List ReferenceQuery) : Prop :=
  ∀ p ∈ queries, ∀ q ∈ queries, key p = key q → p = q

instance {κ : Type} [DecidableEq κ] (key : ReferenceQuery → κ) (queries : List ReferenceQuery) :
    Decidable (CollisionFree key queries) :=
  inferInstanceAs (Decidable (∀ p ∈ queries, ∀ q ∈ queries, key p = key q → p = q))

namespace CollisionFree

variable {κ : Type} {key : ReferenceQuery → κ} {queries fewer : List ReferenceQuery}

theorem subset (collisionFree : CollisionFree key queries) (included : fewer ⊆ queries) :
    CollisionFree key fewer :=
  fun p pMember q qMember => collisionFree p (included pMember) q (included qMember)

/-- A query that is its own key shares it with none. -/
theorem id (queries : List ReferenceQuery) : CollisionFree id queries :=
  fun _ _ _ _ same => same

/-- Fingerprints that tell queries apart make keys that do. -/
theorem of_fingerprint {fingerprint : ReferenceQuery → UInt64}
    (distinct : CollisionFree fingerprint queries) :
    CollisionFree (ReferenceQuery.cacheKey fingerprint) queries := by
  intro p pMember q qMember sameKey
  exact distinct p pMember q qMember (congrArg CacheKey.fingerprint sameKey)

end CollisionFree

namespace Cache

variable {κ : Type} [DecidableEq κ]

@[simp]
theorem get?_empty (k : κ) : ({} : Cache κ).get? k = none := rfl

theorem insertIfAbsent_of_some {c : Cache κ} {k : κ} {stored : ReferenceSet}
    (present : c.get? k = some stored) (set : ReferenceSet) :
    c.insertIfAbsent k set = (stored, c) := by
  simp [insertIfAbsent, present]

theorem insertIfAbsent_of_none {c : Cache κ} {k : κ} (absent : c.get? k = none)
    (set : ReferenceSet) :
    c.insertIfAbsent k set = (set, { entries := c.entries ++ [(k, set)] }) := by
  simp [insertIfAbsent, absent]

/-- The set that is handed back is the one under the key, and every other key
keeps what it has. -/
theorem get?_insertIfAbsent (c : Cache κ) (k other : κ) (set : ReferenceSet) :
    (c.insertIfAbsent k set).2.get? other =
      if other = k then some (c.insertIfAbsent k set).1 else c.get? other := by
  cases found : c.get? k with
  | some stored =>
      rw [insertIfAbsent_of_some found]
      split
      next same => rw [same, found]
      next => rfl
  | none =>
      rw [insertIfAbsent_of_none found]
      by_cases same : other = k
      · subst other
        have absent : c.entries.lookup k = none := found
        simp [get?, List.lookup_append, absent]
      · have differs : (other == k) = false := by simpa using same
        simp [get?, List.lookup_append, List.lookup_cons, differs, same]

/-- Every stored set is the references of one of the given queries, under the
key of that query. -/
def Sound (key : ReferenceQuery → κ) (queries : List ReferenceQuery) (c : Cache κ) : Prop :=
  ∀ k set, c.get? k = some set → ∃ q ∈ queries, key q = k ∧ q.references = set

variable {key : ReferenceQuery → κ} {queries : List ReferenceQuery} {c : Cache κ}
  {q : ReferenceQuery}

/-- Where keys do not collide, what is found under the key of a query are its
own references. -/
theorem Sound.get?_key (sound : c.Sound key queries) (collisionFree : CollisionFree key queries)
    (asked : q ∈ queries) {set : ReferenceSet} (found : c.get? (key q) = some set) :
    set = q.references := by
  rcases sound _ _ found with ⟨p, pMember, sameKey, stored⟩
  rw [← stored, collisionFree p pMember q asked sameKey]

theorem Sound.insertIfAbsent (sound : c.Sound key queries) (asked : q ∈ queries) :
    (c.insertIfAbsent (key q) q.references).2.Sound key queries := by
  intro k set found
  cases present : c.get? (key q) with
  | some stored =>
      rw [insertIfAbsent_of_some present] at found
      exact sound k set found
  | none =>
      rw [get?_insertIfAbsent, insertIfAbsent_of_none present] at found
      split at found
      next same => exact ⟨q, asked, same.symm, Option.some.inj found⟩
      next => exact sound k set found

end Cache

theorem ReferenceQuery.answerBy_run {κ : Type} [DecidableEq κ] (key : ReferenceQuery → κ)
    (q : ReferenceQuery) (c : Cache κ) :
    (q.answerBy key).run c = c.insertIfAbsent (key q) q.references := by
  cases found : c.get? (key q) with
  | some stored =>
      rw [Cache.insertIfAbsent_of_some found]
      simp only [answerBy, StateT.run_bind, StateT.run_get, pure_bind, found]
      rfl
  | none =>
      simp only [answerBy, StateT.run_bind, StateT.run_get, pure_bind, found]
      rfl

end Architecture
