import Architecture.Analyzer
import Architecture.Proofs.Cache.Entries
import Architecture.Rule
import Mathlib.Data.Finset.Card
import Mathlib.Data.List.Dedup

/-!
# Transparency of a shared cache

The central invariant says that a cache holds the references of exactly the
queries that were made on it, each once. One answered query keeps it, so every
inquiry does, and so does every sequence of analyses that share the cache.
-/

namespace Architecture

namespace Inquiry

variable {α κ : Type}

/-- The queries of an inquiry, in order, where each is answered by a new
computation. -/
def queries : Inquiry α → List ReferenceQuery
  | done _ => []
  | ask q next => q :: (next q.references).queries

/-- The queries of an inquiry that runs on a cache, in order. -/
def queriesOn [DecidableEq κ] (key : ReferenceQuery → κ) :
    Inquiry α → Cache κ → List ReferenceQuery
  | done _, _ => []
  | ask q next, c =>
      q :: (next ((q.answerBy key).run c).1).queriesOn key ((q.answerBy key).run c).2

end Inquiry

namespace Cache

variable {α κ : Type}

/-- The entries are the references of the logged queries, each query once. -/
def Records (key : ReferenceQuery → κ) (log : List ReferenceQuery) (c : Cache κ) : Prop :=
  ∃ distinct : List ReferenceQuery, distinct.Nodup ∧ (∀ q, q ∈ distinct ↔ q ∈ log) ∧
    c.entries = distinct.map fun q => (key q, q.references)

theorem records_empty (key : ReferenceQuery → κ) : ({} : Cache κ).Records key [] :=
  ⟨[], List.nodup_nil, by simp, rfl⟩

namespace Records

variable {key : ReferenceQuery → κ} {log : List ReferenceQuery} {c : Cache κ}

theorem size_eq (records : c.Records key log) : c.size = log.toFinset.card := by
  rcases records with ⟨distinct, nodup, members, entries⟩
  have sameMembers : log.toFinset = distinct.toFinset := by
    ext q
    simp [members]
  rw [sameMembers, List.toFinset_card_of_nodup nodup, size, entries, List.length_map]

variable [DecidableEq κ]

theorem sound (records : c.Records key log) : c.Sound key log := by
  rcases records with ⟨distinct, _, members, entries⟩
  intro k set found
  rw [get?, entries] at found
  rcases List.lookup_eq_some_iff.mp found with ⟨before, after, split, _⟩
  have stored : (k, set) ∈ distinct.map fun q => (key q, q.references) := by
    rw [split]
    simp
  rcases List.mem_map.mp stored with ⟨q, qMember, pair⟩
  exact ⟨q, (members q).mp qMember, congrArg Prod.fst pair, congrArg Prod.snd pair⟩

theorem get?_ne_none (records : c.Records key log) {q : ReferenceQuery} (logged : q ∈ log) :
    c.get? (key q) ≠ none := by
  rcases records with ⟨distinct, _, members, entries⟩
  intro missing
  rw [get?, entries, List.lookup_eq_none_iff] at missing
  have differs := missing _ (List.mem_map_of_mem ((members q).mpr logged))
  simp at differs

/-- One answered query: the answer is right and the log grows by the query. -/
theorem answerBy (records : c.Records key log) {q : ReferenceQuery}
    (collisionFree : CollisionFree key (log ++ [q])) :
    ∃ next, (q.answerBy key).run c = (q.references, next) ∧ next.Records key (log ++ [q]) := by
  rw [ReferenceQuery.answerBy_run]
  by_cases logged : q ∈ log
  · have fewer := collisionFree.subset (List.subset_append_left log [q])
    rcases Option.ne_none_iff_exists'.mp (records.get?_ne_none logged) with ⟨set, found⟩
    refine ⟨c, ?_, ?_⟩
    · rw [insertIfAbsent_of_some found, records.sound.get?_key fewer logged found]
    · rcases records with ⟨distinct, nodup, members, entries⟩
      refine ⟨distinct, nodup, ?_, entries⟩
      intro p
      simp only [members, List.mem_append, List.mem_singleton]
      exact ⟨Or.inl, fun either => either.elim id fun same => same ▸ logged⟩
  · have absent : c.get? (key q) = none := by
      by_contra present
      rcases Option.ne_none_iff_exists'.mp present with ⟨set, found⟩
      rcases records.sound _ _ found with ⟨p, pMember, sameKey, _⟩
      have same := collisionFree p (by simp [pMember]) q (by simp) sameKey
      exact logged (same ▸ pMember)
    refine ⟨_, insertIfAbsent_of_none absent _, ?_⟩
    rcases records with ⟨distinct, nodup, members, entries⟩
    refine ⟨distinct ++ [q], ?_, by simp [members], by simp [entries]⟩
    exact List.nodup_append.mpr ⟨nodup, List.nodup_singleton q, by
      intro p pMember r rMember same
      rw [List.mem_singleton.mp rMember] at same
      exact logged ((members q).mp (same ▸ pMember))⟩

/-- A whole inquiry: its outcome does not depend on the cache, and the log grows
by its queries. -/
theorem cachedBy (x : Inquiry α) (records : c.Records key log)
    (collisionFree : CollisionFree key (log ++ x.queries)) :
    ∃ next, (x.cachedBy key).run c = (x.value, next) ∧ next.Records key (log ++ x.queries) := by
  induction x generalizing log c with
  | done a => exact ⟨c, rfl, by simpa [Inquiry.queries] using records⟩
  | ask q rest inductionHypothesis =>
      rw [Inquiry.queries, List.append_cons] at collisionFree ⊢
      rcases records.answerBy (collisionFree.subset (List.subset_append_left _ _)) with
        ⟨between, answered, grown⟩
      rcases inductionHypothesis q.references grown collisionFree with ⟨next, ran, full⟩
      refine ⟨next, ?_, full⟩
      simp only [Inquiry.cachedBy, Inquiry.value, StateT.run_bind, answered]
      exact ran

/-- The queries made on the cache are those that would be made without one. -/
theorem queriesOn_eq (x : Inquiry α) (records : c.Records key log)
    (collisionFree : CollisionFree key (log ++ x.queriesOn key c)) :
    x.queriesOn key c = x.queries := by
  induction x generalizing log c with
  | done a => rfl
  | ask q rest inductionHypothesis =>
      rw [Inquiry.queriesOn, List.append_cons] at collisionFree
      rcases records.answerBy (collisionFree.subset (List.subset_append_left _ _)) with
        ⟨between, answered, grown⟩
      simp only [answered] at collisionFree
      simp only [Inquiry.queriesOn, Inquiry.queries, answered]
      rw [inductionHypothesis q.references grown collisionFree]

end Records

end Cache

/-- What a run on a shared cache shows: its report, the queries it made, and the
size of the cache after it. -/
structure SharedRun where
  report : Report
  queries : List ReferenceQuery
  cached : Nat

namespace Analyzer

variable {κ : Type} [DecidableEq κ]

/-- Runs analyzers one after another on the same cache. -/
def runAll (key : ReferenceQuery → κ) : List Analyzer → Cache κ → List SharedRun
  | [], _ => []
  | a :: rest, c =>
      let ran := (a.evaluateBy key).run c
      { report := ran.1, queries := a.inquiry.queriesOn key c, cached := ran.2.size } ::
        runAll key rest ran.2

variable {key : ReferenceQuery → κ} {log : List ReferenceQuery} {c : Cache κ}

/-- The first of several runs shows its outcome and its queries as they are
without a cache, and leaves a cache that records them. -/
theorem runAll_cons (a : Analyzer) (rest : List Analyzer) (records : c.Records key log)
    (collisionFree :
      CollisionFree key (log ++ (runAll key (a :: rest) c).flatMap (·.queries))) :
    ∃ next, next.Records key (log ++ a.inquiry.queries) ∧
      runAll key (a :: rest) c =
        { report := a.inquiry.value, queries := a.inquiry.queries
          cached := (log ++ a.inquiry.queries).toFinset.card } :: runAll key rest next := by
  have headIncluded : log ++ a.inquiry.queriesOn key c ⊆
      log ++ (runAll key (a :: rest) c).flatMap (·.queries) := by
    rw [runAll, List.flatMap_cons, ← List.append_assoc]
    exact List.subset_append_left _ _
  have headFree := collisionFree.subset headIncluded
  have sameQueries := records.queriesOn_eq a.inquiry headFree
  rw [sameQueries] at headFree
  rcases records.cachedBy a.inquiry headFree with ⟨next, ran, grown⟩
  refine ⟨next, grown, ?_⟩
  simp only [runAll, evaluateBy, ran, sameQueries, grown.size_eq]

/-- Every run of a sequence has the outcome and the queries that it has without
a cache. -/
theorem runAll_eq_uncached (analyzers : List Analyzer) (records : c.Records key log)
    (collisionFree :
      CollisionFree key (log ++ (runAll key analyzers c).flatMap (·.queries))) :
    (runAll key analyzers c).map (fun run => (run.report, run.queries)) =
      analyzers.map fun a => (a.inquiry.value, a.inquiry.queries) := by
  induction analyzers generalizing log c with
  | nil => rfl
  | cons a rest inductionHypothesis =>
      rcases runAll_cons a rest records collisionFree with ⟨next, grown, ran⟩
      rw [ran, List.flatMap_cons, ← List.append_assoc] at collisionFree
      rw [ran, List.map_cons, inductionHypothesis grown collisionFree, List.map_cons]

/-- After every run of a sequence the cache has one entry for each query made so
far. -/
theorem runAll_cached (analyzers : List Analyzer) (records : c.Records key log)
    (collisionFree :
      CollisionFree key (log ++ (runAll key analyzers c).flatMap (·.queries)))
    {i : Nat} {run : SharedRun} (present : (runAll key analyzers c)[i]? = some run) :
    run.cached =
      (log ++ ((runAll key analyzers c).take (i + 1)).flatMap (·.queries)).toFinset.card := by
  induction analyzers generalizing log c i with
  | nil => simp [runAll] at present
  | cons a rest inductionHypothesis =>
      rcases runAll_cons a rest records collisionFree with ⟨next, grown, ran⟩
      rw [ran, List.flatMap_cons, ← List.append_assoc] at collisionFree
      rw [ran] at present ⊢
      cases i with
      | zero =>
          cases present
          simp
      | succ i =>
          rw [List.take_succ_cons, List.flatMap_cons, ← List.append_assoc]
          exact inductionHypothesis grown collisionFree present

theorem evaluateBy_run_fresh (a : Analyzer)
    (collisionFree : CollisionFree key a.inquiry.queries) :
    ((a.evaluateBy key).run {}).1 = a.inquiry.value := by
  rcases (Cache.records_empty key).cachedBy a.inquiry collisionFree with ⟨next, ran, _⟩
  exact congrArg Prod.fst ran

/-- Where every query is its own key, a run reports its outcome and the cache
records its queries. -/
theorem evaluate_run {c : ReferenceCache} (a : Analyzer) (records : c.Records id log) :
    (a.evaluate.run c).1 = a.inquiry.value ∧
      (a.evaluate.run c).2.Records id (log ++ a.inquiry.queries) := by
  rcases records.cachedBy a.inquiry (.id _) with ⟨next, ran, grown⟩
  have evaluated : a.evaluate.run c = (a.inquiry.value, next) := ran
  rw [evaluated]
  exact ⟨rfl, grown⟩

/-- The cache that earlier runs have left. -/
def cacheAfter (earlier : List Analyzer) : ReferenceCache :=
  earlier.foldl (fun c a => (a.evaluate.run c).2) {}

theorem cacheAfter_records (earlier : List Analyzer) :
    ∃ log, (cacheAfter earlier).Records id log := by
  apply List.foldlRecOn (motive := fun c : ReferenceCache => ∃ log, c.Records id log)
  · exact ⟨[], Cache.records_empty id⟩
  · rintro c ⟨log, records⟩ a _
    exact ⟨_, (evaluate_run a records).2⟩

/-- An inquiry has its outcome whatever ran before it. -/
theorem cached_run_cacheAfter {α : Type} (earlier : List Analyzer) (x : Inquiry α) :
    (x.cached.run (cacheAfter earlier)).1 = x.value := by
  rcases cacheAfter_records earlier with ⟨log, records⟩
  rcases records.cachedBy x (.id _) with ⟨next, ran, _⟩
  exact congrArg Prod.fst ran

/-- A run reports its outcome whatever ran before it. -/
theorem evaluate_run_cacheAfter (earlier : List Analyzer) (a : Analyzer) :
    (a.evaluate.run (cacheAfter earlier)).1 = a.inquiry.value := by
  rcases cacheAfter_records earlier with ⟨log, records⟩
  exact (evaluate_run a records).1

/-- Runs that share a cache report what each of them reports on a cache of its
own, as long as the keys of the queries they make do not collide. The cache
never holds more than one entry for each of these queries, nor less. -/
theorem runAll_transparent (key : ReferenceQuery → κ) (analyzers : List Analyzer)
    (collisionFree : CollisionFree key ((runAll key analyzers {}).flatMap (·.queries))) :
    (runAll key analyzers {}).map (·.report) =
        analyzers.map (fun a => ((a.evaluateBy key).run {}).1) ∧
      ∀ (i : Nat) (run : SharedRun), (runAll key analyzers {})[i]? = some run →
        run.cached =
          (((runAll key analyzers {}).take (i + 1)).flatMap (·.queries)).toFinset.card := by
  have empty := Cache.records_empty key
  have uncached := runAll_eq_uncached analyzers empty collisionFree
  constructor
  · have reports : (runAll key analyzers {}).map (·.report) =
        analyzers.map (·.inquiry.value) := by
      simpa [List.map_map, Function.comp_def] using congrArg (List.map Prod.fst) uncached
    have queries : (runAll key analyzers {}).map (·.queries) =
        analyzers.map (·.inquiry.queries) := by
      simpa [List.map_map, Function.comp_def] using congrArg (List.map Prod.snd) uncached
    rw [reports]
    apply List.map_congr_left
    intro a member
    refine (evaluateBy_run_fresh a (collisionFree.subset ?_)).symm
    rw [List.flatMap_def, queries, ← List.flatMap_def]
    exact fun q qMember => List.mem_flatMap.mpr ⟨a, member, qMember⟩
  · intro i run present
    exact runAll_cached analyzers empty collisionFree present

/-- One service type and the type that nobody may use, as loaded by one run. -/
def ofService (base : Option TypeRef) (roots : List String) : Analyzer where
  context := {
    index := TypeIndex.ofModules [{
      name := "App"
      types := [
        { name := ⟨some "App", "Secret"⟩, kind := .plainClass },
        { name := ⟨some "App", "Service"⟩, kind := .plainClass, base }] }]
    options := { rootTypes := roots }
    heuristic := ⟨[], []⟩
    underTest := ["App"] }
  validators := [(Rule.usedOnly [{ target := ⟨some "App", "Secret"⟩ }]).validator]

/-- Runs that disagree on what the service is, and on what a root type is. -/
def serviceRuns : List Analyzer :=
  let derived := some (TypeRef.named ⟨some "App", "Secret"⟩ "" [])
  [ofService derived [], ofService none [], ofService derived ["App.Secret"],
    ofService derived []]

def serviceFingerprint (q : ReferenceQuery) : UInt64 :=
  (if q.type.name.simple = "Secret" then 0 else 1) + (if q.type.base.isSome then 2 else 0) +
    4 * q.roots.length.toUInt64

theorem runAll_transparent_serviceRuns :
    let key := ReferenceQuery.cacheKey serviceFingerprint
    CollisionFree key ((runAll key serviceRuns {}).flatMap (·.queries)) ∧
      (runAll key serviceRuns {}).map (·.report) =
        serviceRuns.map (fun a => ((a.evaluateBy key).run {}).1) ∧
      ∀ (i : Nat) (run : SharedRun), (runAll key serviceRuns {})[i]? = some run →
        run.cached =
          (((runAll key serviceRuns {}).take (i + 1)).flatMap (·.queries)).toFinset.card := by
  intro key
  have collisionFree : CollisionFree key ((runAll key serviceRuns {}).flatMap (·.queries)) :=
    .of_fingerprint (by decide +kernel)
  exact ⟨collisionFree, runAll_transparent key serviceRuns collisionFree⟩

example :
    (runAll (ReferenceQuery.cacheKey serviceFingerprint) serviceRuns {}).map
      (fun run => (run.report.violations.length, run.cached)) =
        [(1, 2), (0, 3), (0, 5), (1, 5)] := by
  decide +kernel

end Analyzer

end Architecture
