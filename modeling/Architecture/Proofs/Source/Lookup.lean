import Architecture.Proofs.Fallible
import Architecture.Proofs.Source.Imports

/-!
# Looking a path up comes to an end

A lookup calls itself in two ways. It goes on with the path that an imported name stands for.
And it seeks a single name that nothing nearby declares in the modules of which everything is
imported, for which the paths of these modules are looked up first. Imports may lead round in
circles, but only so many are followed, and none in a call of the second kind. There, however, a
single name may be met again, so that calls of the second kind could go on for ever.

A name that is sought among the modules comes to an end only if one before it offers it, for else
it is sought in itself. So the calls of the second kind lead back in the list of modules, and
there are no more of them inside each other than there are modules. A lookup that has not ended
by then never does. None is needed if every single name of which everything is imported is known
nearby.
-/

namespace Architecture.Source

namespace Imports

/-- No name is bound to a path without segments. -/
theorem ne_nil_of_target?_ofItems {items : List Item} {name : String} {path : List String}
    (imported : (ofItems items).target? name = some path) : path ≠ [] := by
  rw [target?_ofItems] at imported
  obtain ⟨⟨before, ending⟩, -, bound⟩ := Option.bind_eq_some_iff.mp imported
  rintro rfl
  cases ending with
  | self => cases before <;> simp [Import.literalBinding?, Import.binding?] at bound
  | name | renamed | selfRenamed | everything =>
      simp [Import.literalBinding?, Import.binding?] at bound

end Imports

namespace Scope

variable {s : Scope} {call other : Nat → List String → Found Target} {depth calls more : Nat}
  {first name : String} {segments rest path glob : List String}
  {earlier later : List (List String)}

/-! ### One lookup -/

theorem lookupBy_of_anchored? {target : Target} (anchored : s.anchored? segments = some target) :
    s.lookupBy call depth segments = .ok target := by
  cases segments with
  | nil => exact congrArg Except.ok (Option.some.inj anchored)
  | cons first rest => rw [lookupBy, anchored]

theorem lookupBy_of_followed (loose : s.anchored? (first :: rest) = none)
    (follows : s.followed? depth first = .ok (some path)) :
    s.lookupBy call depth (first :: rest) = call (depth + 1) (path ++ rest) := by
  rw [lookupBy, loose, follows]
  rfl

theorem lookupBy_of_notFollowed (loose : s.anchored? (first :: rest) = none)
    (stays : s.followed? depth first = .ok none) :
    s.lookupBy call depth (first :: rest) = s.lookupDeclared call (first :: rest) := by
  rw [lookupBy, loose, stays]
  rfl

theorem lookupDeclared_of_nearby? {target : Target} (near : s.nearby? segments = some target) :
    s.lookupDeclared call segments = .ok target := by
  simp [lookupDeclared, near]

theorem lookupDeclared_single (unknown : s.nearby? [name] = none) :
    s.lookupDeclared call [name] = s.seek call name := by
  rw [lookupDeclared, unknown]

theorem lookupDeclared_longer (unknown : s.nearby? (first :: rest) = none) (longer : rest ≠ []) :
    s.lookupDeclared call (first :: rest) = .ok (.outside (first :: rest)) := by
  simp [lookupDeclared, unknown, longer]

/-- Imported names are followed up to the limit only. -/
theorem lt_of_followed? (follows : s.followed? depth first = .ok (some path)) :
    depth < aliasLimit := by
  by_contra deep
  rw [followed?, if_neg deep] at follows
  cases follows

theorem followed?_of_limit (deep : aliasLimit ≤ depth) (first : String) :
    s.followed? depth first = .ok none :=
  if_neg (Nat.not_lt.mpr deep)

/-- What the first segment of a path was imported as, unless that is the segment itself. -/
def expansion? (s : Scope) (first : String) : Option (List String) :=
  (s.imports.target? first).filter (· ≠ [first])

theorem followed?_of_expansion? (expands : s.expansion? first = some path) (nonempty : path ≠ [])
    (mayFollow : depth < aliasLimit) : s.followed? depth first = .ok (some path) := by
  obtain ⟨imported, differs⟩ := Option.filter_eq_some_iff.mp expands
  rw [followed?, if_pos mayFollow, imported]
  match path, nonempty with
  | [word], _ => simpa using differs
  | _ :: _ :: _, _ => simp

theorem followed?_of_notImported (unimported : s.expansion? first = none) (depth : Nat) :
    s.followed? depth first = .ok none := by
  rw [expansion?, Option.filter_eq_none_iff] at unimported
  unfold followed?
  split
  · cases imported : s.imports.target? first with
    | none => rfl
    | some path =>
        obtain rfl : path = [first] := by simpa using unimported path imported
        simp
  · rfl

/-- What one lookup comes to, whatever the calls are that it makes: an answer, a failure where an
imported name is followed, the call for an imported path, or a search among modules. -/
inductive Move (s : Scope) (depth : Nat) (segments : List String) : Prop where
  | answers (target : Target) (same : ∀ call, s.lookupBy call depth segments = .ok target)
  | fails {first : String} {failure : LookupFailure}
      (follows : s.followed? depth first = .error failure)
      (same : ∀ call, s.lookupBy call depth segments = .error failure)
  | follows (mayFollow : depth < aliasLimit) (path : List String)
      (same : ∀ call, s.lookupBy call depth segments = call (depth + 1) path)
  | seeks {name : String} (single : segments = [name]) (loose : s.anchored? [name] = none)
      (unknown : s.nearby? [name] = none)
      (same : ∀ call, s.lookupBy call depth segments = s.seek call name)

theorem move_of_notFollowed (loose : s.anchored? (first :: rest) = none)
    (stays : s.followed? depth first = .ok none) : s.Move depth (first :: rest) := by
  have declared : ∀ call, s.lookupBy call depth (first :: rest) =
      s.lookupDeclared call (first :: rest) := fun _ => lookupBy_of_notFollowed loose stays
  cases near : s.nearby? (first :: rest) with
  | some target =>
      exact .answers target fun call => (declared call).trans (lookupDeclared_of_nearby? near)
  | none =>
      cases rest with
      | nil =>
          exact .seeks rfl loose near fun call => (declared call).trans (lookupDeclared_single near)
      | cons next rest =>
          exact .answers _ fun call =>
            (declared call).trans (lookupDeclared_longer near (List.cons_ne_nil next rest))

theorem lookupBy_move (s : Scope) (depth : Nat) (segments : List String) :
    s.Move depth segments := by
  cases anchored : s.anchored? segments with
  | some target => exact .answers target fun _ => lookupBy_of_anchored? anchored
  | none =>
      cases segments with
      | nil => cases anchored
      | cons first rest =>
          match followed : s.followed? depth first with
          | .error failure =>
              refine .fails followed fun call => ?_
              rw [lookupBy, anchored, followed]
              rfl
          | .ok (some path) =>
              exact .follows (lt_of_followed? followed) (path ++ rest) fun _ =>
                lookupBy_of_followed anchored followed
          | .ok none => exact move_of_notFollowed anchored followed

/-! ### More calls -/

/-- Enough calls were allowed. -/
def Ended (found : Found Target) : Prop := found ≠ .error .tooDeep

theorem ended_of_eq_ok {found : Found Target} {t : Target} (leads : found = .ok t) :
    Ended found := by
  simp [Ended, leads]

theorem through_eq_of_ended
    (same : Ended (call aliasLimit glob) → other aliasLimit glob = call aliasLimit glob)
    (ended : s.through call name glob ≠ .error .tooDeep) :
    s.through other name glob = s.through call name glob := by
  rw [through, same fun failed => ended (map_eq_error_iff.mpr failed), through]

/-- A search ends as before if each of its calls that has ended does. -/
theorem seek_eq_of_ended
    (same : ∀ glob ∈ s.imports.globs, Ended (call aliasLimit glob) →
      other aliasLimit glob = call aliasLimit glob)
    (ended : Ended (s.seek call name)) : s.seek other name = s.seek call name := by
  rw [seek, seek, findSomeM?_eq_of_ne .tooDeep]
  · exact fun glob member => through_eq_of_ended (same glob member)
  · exact fun failed => ended (bind_eq_error_iff.mpr (.inl failed))

/-- A search that has ended, although the call for one of the modules has not, has ended before
it came there. -/
theorem seek_eq_of_earlier (globs : s.imports.globs = earlier ++ glob :: later)
    (unended : call aliasLimit glob = .error .tooDeep)
    (same : ∀ glob ∈ earlier, Ended (call aliasLimit glob) →
      other aliasLimit glob = call aliasLimit glob)
    (ended : Ended (s.seek call name)) : s.seek other name = s.seek call name := by
  have stops : earlier.findSomeM? (s.through call name) ≠ .ok none := by
    intro nothing
    apply ended
    rw [seek, globs, findSomeM?_append_of_none nothing, List.findSomeM?, through, unended]
    rfl
  rw [seek, globs, findSomeM?_append_of_ne stops] at ended
  have agree : earlier.findSomeM? (s.through other name) =
      earlier.findSomeM? (s.through call name) := by
    apply findSomeM?_eq_of_ne .tooDeep
    · exact fun glob member => through_eq_of_ended (same glob member)
    · exact fun failed => ended (bind_eq_error_iff.mpr (.inl failed))
  rw [seek, seek, globs, findSomeM?_append_of_ne stops,
    findSomeM?_append_of_ne (agree.trans_ne stops), agree]

/-- One lookup ends as before if each of its calls that has ended does. -/
theorem lookupBy_eq_of_ended
    (followed : depth < aliasLimit → ∀ path, Ended (call (depth + 1) path) →
      other (depth + 1) path = call (depth + 1) path)
    (sought : ∀ name, Ended (s.seek call name) → s.seek other name = s.seek call name)
    (ended : Ended (s.lookupBy call depth segments)) :
    s.lookupBy other depth segments = s.lookupBy call depth segments := by
  cases s.lookupBy_move depth segments with
  | answers target same => rw [same, same]
  | fails _ same => rw [same, same]
  | follows mayFollow path same =>
      rw [same] at ended
      rw [same, same]
      exact followed mayFollow path ended
  | seeks _ _ _ same =>
      rw [same] at ended
      rw [same, same]
      exact sought _ ended

/-- What has ended ends the same with more calls. -/
theorem lookup_eq_of_le (ended : Ended (s.lookup calls depth segments)) (le : calls ≤ more) :
    s.lookup more depth segments = s.lookup calls depth segments := by
  induction calls generalizing depth segments more with
  | zero => exact absurd rfl ended
  | succ calls inductionHypothesis =>
      obtain ⟨left, rfl⟩ := Nat.exists_eq_add_one_of_ne_zero (show more ≠ 0 by omega)
      have same : ∀ {depth segments}, Ended (s.lookup calls depth segments) →
          s.lookup left depth segments = s.lookup calls depth segments :=
        fun ended => inductionHypothesis ended (by omega)
      apply lookupBy_eq_of_ended _ _ ended
      · exact fun _ path => same
      · exact fun name => seek_eq_of_ended fun glob _ => same

theorem lookup_unique (ended : Ended (s.lookup calls depth segments))
    (alsoEnded : Ended (s.lookup more depth segments)) :
    s.lookup more depth segments = s.lookup calls depth segments := by
  rcases Nat.le_total calls more with le | le
  · exact lookup_eq_of_le ended le
  · exact (lookup_eq_of_le alsoEnded le).symm

/-! ### The number of calls -/

/-- A module of which everything is imported takes one call more than those before it. If none of
them offered its name, it would be sought in itself. -/
theorem lookup_glob_of_before (globs : s.imports.globs = earlier ++ glob :: later)
    (before : ∀ glob ∈ earlier, ∀ calls, Ended (s.lookup calls aliasLimit glob) →
      s.lookup earlier.length aliasLimit glob = s.lookup calls aliasLimit glob)
    (ended : Ended (s.lookup calls aliasLimit glob)) :
    s.lookup (earlier.length + 1) aliasLimit glob = s.lookup calls aliasLimit glob := by
  induction calls with
  | zero => exact absurd rfl ended
  | succ calls inductionHypothesis =>
      by_cases again : Ended (s.lookup calls aliasLimit glob)
      · exact (inductionHypothesis again).trans (lookup_eq_of_le again (Nat.le_succ calls)).symm
      · apply lookupBy_eq_of_ended _ _ ended
        · exact fun below => absurd below (Nat.lt_irrefl aliasLimit)
        · intro name
          exact seek_eq_of_earlier globs (not_not.mp again) fun glob member =>
            before glob member calls

/-- A module of which everything is imported takes as many calls as its place in the list says. -/
theorem lookup_glob_eq (globs : s.imports.globs = earlier ++ glob :: later)
    (ended : Ended (s.lookup calls aliasLimit glob)) :
    s.lookup (earlier.length + 1) aliasLimit glob = s.lookup calls aliasLimit glob := by
  induction place : earlier.length using Nat.strongRecOn generalizing earlier later glob calls with
  | _ place inductionHypothesis =>
      subst place
      apply lookup_glob_of_before globs _ ended
      intro other member calls ended
      obtain ⟨before, between, rfl⟩ := List.append_of_mem member
      have earlierPlace : before.length < (before ++ other :: between).length := by simp
      have same := inductionHypothesis before.length earlierPlace
        (globs.trans (List.append_assoc before (other :: between) (glob :: later))) ended rfl
      rw [← same]
      exact lookup_eq_of_le (same.trans_ne ended) earlierPlace

/-- A lookup that has ended at all ends the same with one call for each imported name that it may
follow, one for each module of which everything is imported, and its own. -/
theorem lookup_eq_of_enough (ended : Ended (s.lookup calls depth segments))
    (enough : aliasLimit - depth + s.imports.globs.length + 1 ≤ more) :
    s.lookup more depth segments = s.lookup calls depth segments := by
  induction calls generalizing depth segments more with
  | zero => exact absurd rfl ended
  | succ calls inductionHypothesis =>
      obtain ⟨left, rfl⟩ := Nat.exists_eq_add_one_of_ne_zero (show more ≠ 0 by omega)
      apply lookupBy_eq_of_ended _ _ ended
      · exact fun mayFollow path ended => inductionHypothesis ended (by omega)
      · intro name
        apply seek_eq_of_ended
        intro glob member ended
        obtain ⟨before, after, split⟩ := List.append_of_mem member
        have same := lookup_glob_eq split ended
        have place : before.length + 1 ≤ left := by
          have longer := congrArg List.length split
          simp only [List.length_append, List.length_cons] at longer
          omega
        rw [← same]
        exact lookup_eq_of_le (same.trans_ne ended) place

theorem target_eq_of_ended (ended : Ended (s.lookup calls 0 segments)) :
    s.target segments = s.lookup calls 0 segments :=
  lookup_eq_of_enough ended (Nat.le_refl _)

theorem target_of_lookup {t : Target} (calls : Nat) (leads : s.lookup calls 0 segments = .ok t) :
    s.target segments = .ok t :=
  (target_eq_of_ended (ended_of_eq_ok leads)).trans leads

/-- A path leads nowhere for want of calls exactly if no number of calls is enough. -/
theorem target_eq_tooDeep_iff :
    s.target segments = .error .tooDeep ↔ ∀ calls, s.lookup calls 0 segments = .error .tooDeep := by
  constructor
  · intro endless calls
    by_contra ended
    exact ended ((target_eq_of_ended ended).symm.trans endless)
  · exact fun endless => endless s.callLimit

/-! ### Lookups that end -/

theorem exists_followed? (nonempty : ∀ name path, s.imports.target? name = some path → path ≠ [])
    (depth : Nat) (first : String) : ∃ path?, s.followed? depth first = .ok path? := by
  unfold followed?
  split
  · cases imported : s.imports.target? first with
    | none => exact ⟨_, rfl⟩
    | some path =>
        cases path with
        | nil => exact absurd rfl (nonempty first [] imported)
        | cons word path =>
            dsimp only
            split
            · exact ⟨_, rfl⟩
            · exact ⟨_, rfl⟩
  · exact ⟨_, rfl⟩

theorem exists_seek (globs : ∀ glob ∈ s.imports.globs, ∃ t, call aliasLimit glob = .ok t)
    (name : String) : ∃ t, s.seek call name = .ok t := by
  obtain ⟨found, searched⟩ : ∃ found,
      s.imports.globs.findSomeM? (s.through call name) = .ok found := by
    apply exists_findSomeM?_eq_ok
    intro glob member
    obtain ⟨t, leads⟩ := globs glob member
    exact ⟨_, map_eq_ok_iff.mpr ⟨t, leads, rfl⟩⟩
  exact ⟨_, bind_eq_ok_iff.mpr ⟨found, searched, rfl⟩⟩

/-- A path that is looked up without seeking its first segment in other modules. -/
def Settled (s : Scope) (path : List String) : Prop :=
  ∀ name, path = [name] → s.anchored? [name] ≠ none ∨ s.nearby? [name] ≠ none

/-- One lookup answers if the calls that it makes do. -/
theorem exists_lookupBy
    (nonempty : ∀ name path, s.imports.target? name = some path → path ≠ [])
    (followed : depth < aliasLimit → ∀ path, ∃ t, call (depth + 1) path = .ok t)
    (sought : s.Settled segments ∨ ∀ name, ∃ t, s.seek call name = .ok t) :
    ∃ t, s.lookupBy call depth segments = .ok t := by
  cases s.lookupBy_move depth segments with
  | answers target same => exact ⟨target, same call⟩
  | @fails first _ follows _ =>
      obtain ⟨path?, found⟩ := exists_followed? nonempty depth first
      cases follows.symm.trans found
  | follows mayFollow path same =>
      rw [same]
      exact followed mayFollow path
  | @seeks name single loose unknown same =>
      rw [same]
      rcases sought with settled | sought
      · rcases settled name single with known | known
        · exact absurd loose known
        · exact absurd unknown known
      · exact sought name

/-- A lookup that may follow some more imported names needs as many calls inside each other, and
two more: one for a path that is not followed any further, and one for a module of which everything
is imported. -/
theorem exists_lookup (nonempty : ∀ name path, s.imports.target? name = some path → path ≠ [])
    (settled : ∀ glob ∈ s.imports.globs, s.Settled glob)
    (enough : aliasLimit - depth + 2 ≤ calls) :
    ∃ t, s.lookup calls depth segments = .ok t := by
  induction calls generalizing depth segments with
  | zero => omega
  | succ calls inductionHypothesis =>
      apply exists_lookupBy nonempty
      · exact fun mayFollow path => inductionHypothesis (by omega)
      · right
        apply exists_seek
        intro glob member
        -- One call is left, and a settled path makes no other.
        obtain ⟨left, rfl⟩ := Nat.exists_eq_add_one_of_ne_zero (show calls ≠ 0 by omega)
        apply exists_lookupBy nonempty
        · exact fun mayFollow => absurd mayFollow (Nat.lt_irrefl aliasLimit)
        · exact .inl (settled glob member)

/-- Each single name of which everything is imported is a word for a module, the package's own
name, a module below or a type of the module. -/
def KnowsGlobs (s : Scope) : Prop :=
  ∀ name, [name] ∈ s.imports.globs →
    name ∈ ["crate", "self", "super", s.declarations.package] ∨ s.isChild name = true ∨
      s.declarations.declares s.path name = true

theorem settled_of_knowsGlobs (known : s.KnowsGlobs) (member : glob ∈ s.imports.globs) :
    s.Settled glob := by
  rintro name rfl
  rcases known name member with word | child | declared
  · left
    simp only [List.mem_cons, List.not_mem_nil, or_false] at word
    simp only [anchored?]
    split_ifs <;> simp_all
  · right
    simp [nearby?, child]
  · right
    simp only [nearby?, declared]
    split <;> simp

/-- With imports from declarations of them, a lookup has an answer if each single name of which
everything is imported is known. -/
theorem exists_lookup_of_knowsGlobs {items : List Item} (imports : s.imports = .ofItems items)
    (known : s.KnowsGlobs) (segments : List String)
    (enough : aliasLimit - depth + 2 ≤ calls) :
    ∃ t, s.lookup calls depth segments = .ok t := by
  apply exists_lookup _ (fun _ => settled_of_knowsGlobs known) enough
  intro name path imported
  rw [imports] at imported
  exact Imports.ne_nil_of_target?_ofItems imported

theorem exists_target_of_knowsGlobs {items : List Item} (imports : s.imports = .ofItems items)
    (known : s.KnowsGlobs) (segments : List String) : ∃ t, s.target segments = .ok t := by
  obtain ⟨t, leads⟩ :=
    exists_lookup_of_knowsGlobs imports known segments (Nat.le_refl (aliasLimit - 0 + 2))
  exact ⟨t, target_of_lookup _ leads⟩

/-- With imports from declarations of them, however they lead into each other, every lookup ends,
whatever the path and however many imported names were followed before: if each single name of
which everything is imported is a word for a module, the package's own name, a module below or a
type of the module. A fixed number of calls inside each other is enough, more of them change
nothing, and the program allows for as many. -/
theorem lookup_ends (s : Scope) (items : List Item) (imports : s.imports = .ofItems items)
    (known : ∀ name, [name] ∈ s.imports.globs →
      name ∈ ["crate", "self", "super", s.declarations.package] ∨ s.isChild name = true ∨
        s.declarations.declares s.path name = true)
    (depth : Nat) (segments : List String) :
    ∃ target, (∀ calls, aliasLimit - depth + 2 ≤ calls →
        s.lookup calls depth segments = .ok target) ∧
      (depth = 0 → s.target segments = .ok target) := by
  obtain ⟨target, leads⟩ :=
    exists_lookup_of_knowsGlobs imports known segments (Nat.le_refl (aliasLimit - depth + 2))
  have same : ∀ calls, aliasLimit - depth + 2 ≤ calls →
      s.lookup calls depth segments = .ok target :=
    fun calls enough => (lookup_eq_of_le (ended_of_eq_ok leads) enough).trans leads
  refine ⟨target, same, ?_⟩
  rintro rfl
  exact target_of_lookup _ leads

/-- A module with imports that lead round in a circle, one that leads to itself, and modules of
which everything is imported. -/
def circlingScope : Scope where
  declarations :=
    { package := "app"
      modules := [[], ["sea"], ["sea", "tide"]]
      types := [(["sea"], "Fish"), (["sea", "tide"], "Wave")] }
  path := ["sea"]
  imports := .ofItems [
    .use (.into "east" (.renamed "x" "west")),
    .use (.into "west" (.renamed "y" "east")),
    .use (.into "foo" (.name "foo")),
    .use (.into "serde" (.into "de" .everything)),
    .use (.into "Fish" .everything),
    .use (.into "tide" .everything)]

theorem lookup_ends_circlingScope :
    circlingScope.imports.globs = [["serde", "de"], ["Fish"], ["tide"]] ∧
      circlingScope.isChild "tide" = true ∧
      circlingScope.declarations.declares ["sea"] "Fish" = true ∧
      (∀ calls, 18 ≤ calls → circlingScope.lookup calls 0 ["west"] =
        .ok (.outside ("west" :: (List.replicate 8 ["y", "x"]).flatten))) ∧
      (∀ calls, 3 ≤ calls → circlingScope.lookup calls 15 ["foo", "Tuna"] =
        .ok (.outside ["foo", "foo", "Tuna"])) ∧
      (∀ calls, 2 ≤ calls → circlingScope.lookup calls 20 ["Wave"] =
        .ok (.inside ["sea", "tide", "Wave"])) := by
  have globs : circlingScope.imports.globs = [["serde", "de"], ["Fish"], ["tide"]] := by decide
  have child : circlingScope.isChild "tide" = true := by decide
  have declared : circlingScope.declarations.declares ["sea"] "Fish" = true := by decide
  have ends := lookup_ends circlingScope _ rfl (by
    intro name member
    simp only [globs, List.mem_cons, List.cons.injEq, and_true, List.not_mem_nil,
      or_false] at member
    rcases member with ⟨_, ⟨⟩⟩ | rfl | rfl
    · exact .inr (.inr declared)
    · exact .inr (.inl child))
  have same : ∀ depth segments {answer}, circlingScope.lookup (aliasLimit - depth + 2) depth
      segments = .ok answer → ∀ calls, aliasLimit - depth + 2 ≤ calls →
        circlingScope.lookup calls depth segments = .ok answer := by
    intro depth segments answer first calls enough
    obtain ⟨target, leads, _⟩ := ends depth segments
    rw [leads calls enough, ← first, leads _ (Nat.le_refl _)]
  refine ⟨globs, child, declared, same 0 ["west"] ?_, same 15 ["foo", "Tuna"] ?_,
    same 20 ["Wave"] ?_⟩
  · decide +kernel
  · decide +kernel
  · decide +kernel

/-! ### Lookups without end -/

/-- The condition on single names is needed. Where everything is imported of a name that nothing
nearby declares and no module before it offers, the name is sought in itself, and no number of
calls is enough. -/
theorem lookup_eq_tooDeep (globs : s.imports.globs = earlier ++ [name] :: later)
    (notOffered : ∀ glob ∈ earlier, ∃ calls target,
      s.lookup calls aliasLimit glob = .ok target ∧ s.offered? name target = none)
    (unsettled : ¬ s.Settled [name]) (calls : Nat) :
    s.lookup calls aliasLimit [name] = .error .tooDeep := by
  have ⟨loose, unknown⟩ : s.anchored? [name] = none ∧ s.nearby? [name] = none := by
    simpa [Settled] using unsettled
  induction calls with
  | zero => rfl
  | succ calls inductionHypothesis =>
      have passed : ∀ glob ∈ earlier, s.through (s.lookup calls) name glob = .ok none ∨
          s.through (s.lookup calls) name glob = .error .tooDeep := by
        intro glob member
        obtain ⟨enough, target, leads, nothing⟩ := notOffered glob member
        -- A module before the name is looked up to no avail, if there are calls left for it.
        by_cases ended : Ended (s.lookup calls aliasLimit glob)
        · have same := lookup_unique ended (ended_of_eq_ok leads)
          exact .inl (map_eq_ok_iff.mpr ⟨target, same.symm.trans leads, nothing⟩)
        · exact .inr (map_eq_error_iff.mpr (not_not.mp ended))
      have fails : s.through (s.lookup calls) name [name] = .error .tooDeep :=
        map_eq_error_iff.mpr inductionHypothesis
      rw [lookup, lookupBy_of_notFollowed loose (followed?_of_limit (Nat.le_refl _) name),
        lookupDeclared_single unknown, seek, globs, findSomeM?_eq_error passed fails]
      rfl

end Scope
end Architecture.Source
