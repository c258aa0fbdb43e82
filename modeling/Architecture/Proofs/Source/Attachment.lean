import Architecture.Proofs.Source.Extraction

/-!
# Where implementations go

Parts are attached one after another, each to the last type of its target's name. As names
stay as they are, the place of a part depends on the declared types alone. So every type is in
the end what it was declared as, with the members of the parts for its place behind its own, in
order, and with the interfaces of these parts that were not listed yet, each once. A part whose
target has no type is dropped.
-/

namespace Architecture.Source

/-- The position of the last occurrence of a name. -/
def lastPosition? (name : TypeName) : List TypeName → Option Nat
  | [] => none
  | first :: rest =>
    ((lastPosition? name rest).map (· + 1)).or (if first = name then some 0 else none)

theorem lastPosition?_eq_none_iff {name : TypeName} {names : List TypeName} :
    lastPosition? name names = none ↔ name ∉ names := by
  induction names with
  | nil => simp [lastPosition?]
  | cons first rest inductionHypothesis =>
      rw [lastPosition?, Option.or_eq_none_iff, Option.map_eq_none_iff, inductionHypothesis,
        List.mem_cons, not_or, and_comm]
      simp [eq_comm]

theorem lastPosition?_eq_some_iff {name : TypeName} {names : List TypeName} {i : Nat} :
    lastPosition? name names = some i ↔ names[i]? = some name ∧ name ∉ names.drop (i + 1) := by
  induction names generalizing i with
  | nil => simp [lastPosition?]
  | cons first rest inductionHypothesis =>
      cases later : lastPosition? name rest with
      | none =>
          have absent := lastPosition?_eq_none_iff.mp later
          cases i with
          | zero => simp [lastPosition?, later, absent]
          | succ i =>
              have elsewhere : rest[i]? ≠ some name := fun found =>
                absent (List.mem_of_getElem? found)
              simp [lastPosition?, later, elsewhere]
      | some j =>
          have last := inductionHypothesis.mp later
          cases i with
          | zero =>
              have present : name ∈ rest := List.mem_of_getElem? last.1
              simp [lastPosition?, later, present]
          | succ i =>
              rw [lastPosition?, later, List.getElem?_cons_succ, List.drop_succ_cons,
                ← inductionHypothesis, later]
              simp

theorem names_eq_of_keys {types others : List TypeDescriptor}
    (same : types.map (·.key) = others.map (·.key)) :
    types.map (·.name) = others.map (·.name) := by
  have names := congrArg (List.map TypeKey.name) same
  rw [List.map_map, List.map_map] at names
  exact names

namespace Part

/-- What attaching a part to a type changes: its interface is listed unless an equal one is
there, and its members come last. -/
theorem onto_eq (p : Part) (t : TypeDescriptor) :
    p.onto t =
      { t with
        interfaces := t.interfaces ++ p.interface.toList.filter (· ∉ t.interfaces)
        members := t.members ++ p.members } := by
  cases listed : p.interface with
  | none => simp [onto, listed]
  | some interface =>
      by_cases known : interface ∈ t.interfaces
      · simp [onto, listed, known]
      · simp [onto, listed, known]

theorem attach_eq_mapIdx (p : Part) (types : List TypeDescriptor) :
    p.attach types = types.mapIdx fun i t =>
      if lastPosition? p.target (types.map (·.name)) = some i then p.onto t else t := by
  induction types with
  | nil => rfl
  | cons t rest inductionHypothesis =>
      have any : rest.any (·.name = p.target) =
          (lastPosition? p.target (rest.map (·.name))).isSome := by
        rw [Bool.eq_iff_iff, Option.isSome_iff_ne_none, ne_eq, lastPosition?_eq_none_iff]
        simp
      rw [attach, any, List.mapIdx_cons, List.map_cons, lastPosition?, inductionHypothesis]
      cases later : lastPosition? p.target (rest.map (·.name)) with
      | none =>
          have rest_eq : rest.mapIdx (fun _ t => t) = rest := List.mapIdx_eq_iff.mpr (by simp)
          by_cases same : t.name = p.target
          · simp [same, rest_eq]
          · simp [same]
      | some j => simp

/-- What is listed once more than a list and what is listed after it. -/
theorem append_eraseDups_filter {listed : List TypeRef} {r : TypeRef} (unlisted : r ∉ listed)
    (rest : List TypeRef) :
    listed ++ [r] ++ (rest.filter (· ∉ listed ++ [r])).eraseDups =
      listed ++ ((r :: rest).filter (· ∉ listed)).eraseDups := by
  have others : (rest.filter (· ∉ listed)).filter (fun other => !other == r) =
      rest.filter (· ∉ listed ++ [r]) := by
    rw [List.filter_filter]
    refine List.filter_congr fun other _ => Bool.eq_iff_iff.mpr ?_
    simp [and_comm]
  rw [List.filter_cons_of_pos (by simpa using unlisted), List.eraseDups_cons, others,
    List.append_assoc, List.singleton_append]

/-- Parts for one type, attached in order. An interface is listed at its first occurrence. -/
theorem foldl_onto (parts : List Part) (t : TypeDescriptor) :
    parts.foldl (fun t p => p.onto t) t =
      { t with
        interfaces := t.interfaces ++
          ((parts.filterMap (·.interface)).filter (· ∉ t.interfaces)).eraseDups
        members := t.members ++ parts.flatMap (·.members) } := by
  induction parts generalizing t with
  | nil => simp
  | cons p rest inductionHypothesis =>
      rw [List.foldl_cons, inductionHypothesis, onto_eq, List.filterMap_cons]
      cases listed : p.interface with
      | none => simp
      | some interface =>
          by_cases known : interface ∈ t.interfaces
          · simp [known]
          · have further := append_eraseDups_filter known (rest.filterMap (·.interface))
            simp only [known, Option.toList_some, List.filter_cons_of_pos, List.filter_nil,
              not_false_eq_true, decide_true, List.flatMap_cons, List.append_assoc] at further ⊢
            rw [further]

theorem names_attach (p : Part) (types : List TypeDescriptor) :
    (p.attach types).map (·.name) = types.map (·.name) :=
  names_eq_of_keys (p.keys_attach types)

end Part

namespace Extracted

def names (e : Extracted) : List TypeName := e.types.map (·.name)

/-- The position of the type that parts for a name are attached to. -/
def place? (e : Extracted) (name : TypeName) : Option Nat := lastPosition? name e.names

/-- The parts for the type at a position. -/
def partsAt (e : Extracted) (i : Nat) : List Part := e.parts.filter (e.place? ·.target = some i)

/-- What is extracted, with the first parts only. -/
def upTo (e : Extracted) (n : Nat) : Extracted := { e with parts := e.parts.take n }

theorem finished_upTo_succ {e : Extracted} {n : Nat} {p : Part} (next : e.parts[n]? = some p) :
    (e.upTo (n + 1)).finished = p.attach (e.upTo n).finished := by
  rw [finished, finished, upTo, upTo, List.take_add_one, next, Option.toList_some,
    List.foldl_append, List.foldl_cons, List.foldl_nil]

theorem names_finished (e : Extracted) : e.finished.map (·.name) = e.names :=
  names_eq_of_keys e.keys_finished

/-- In a whole run every type gets the parts for its place, one after another. -/
theorem finished_eq_foldl (e : Extracted) :
    e.finished = e.types.mapIdx fun i t => (e.partsAt i).foldl (fun t p => p.onto t) t := by
  obtain ⟨types, parts⟩ := e
  induction parts generalizing types with
  | nil => exact (List.mapIdx_eq_iff.mpr (by simp [partsAt, finished])).symm
  | cons p rest inductionHypothesis =>
      have places : ∀ name, place? ⟨p.attach types, rest⟩ name = place? ⟨types, p :: rest⟩ name :=
        fun name => congrArg (lastPosition? name) (p.names_attach types)
      have first : finished ⟨types, p :: rest⟩ = finished ⟨p.attach types, rest⟩ := rfl
      rw [first, inductionHypothesis, p.attach_eq_mapIdx, List.mapIdx_mapIdx]
      congr 1
      funext i t
      simp only [partsAt, ← p.attach_eq_mapIdx, places, List.filter_cons, Function.comp_apply]
      by_cases here : place? ⟨types, p :: rest⟩ p.target = some i
      · have at_i : lastPosition? p.target (types.map (·.name)) = some i := here
        simp [here, at_i]
      · have elsewhere : lastPosition? p.target (types.map (·.name)) ≠ some i := here
        simp [here, elsewhere]

/-- Attaching parts loses and repeats nothing. Every part for a known name goes to one type of
that name, and every other part to none. -/
theorem finished_attaches (e : Extracted) :
    (∀ name, e.place? name = none ↔ name ∉ e.names) ∧
      (∀ name i, e.place? name = some i ↔
        e.names[i]? = some name ∧ name ∉ e.names.drop (i + 1)) ∧
      e.finished.map (·.name) = e.names ∧
      (e.finished = e.types.mapIdx fun i t =>
        { t with
          interfaces := t.interfaces ++
            (((e.partsAt i).filterMap (·.interface)).filter (· ∉ t.interfaces)).eraseDups
          members := t.members ++ (e.partsAt i).flatMap (·.members) }) ∧
      ∀ n p, e.parts[n]? = some p →
        (e.upTo (n + 1)).finished = (e.upTo n).finished.mapIdx fun i t =>
          if e.place? p.target = some i then
            { t with
              interfaces := t.interfaces ++ p.interface.toList.filter (· ∉ t.interfaces)
              members := t.members ++ p.members }
          else t := by
  refine ⟨fun name => lastPosition?_eq_none_iff, fun name i => lastPosition?_eq_some_iff,
    e.names_finished, ?_, ?_⟩
  · rw [finished_eq_foldl]
    simp only [Part.foldl_onto]
  · intro n p next
    rw [finished_upTo_succ next, Part.attach_eq_mapIdx, names_finished]
    simp only [Part.onto_eq]
    rfl

/-- Two types of one name and one of another, with parts for both and for a third name. -/
def shoal : Extracted where
  types := [{ name := .parse "app.Net", kind := .struct },
    { name := .parse "app.Tuna", kind := .struct, members := [.field "weight" (.generic "T")] },
    { name := .parse "app.Net", kind := .record }]
  parts := [
    { target := .parse "app.Net", interface := some (.generic "Haul"),
      members := [.method "haul" [] none] },
    { target := .parse "app.Boat", members := [.method "sail" [] none] },
    { target := .parse "app.Net", interface := some (.generic "Haul"),
      members := [.method "mend" [] none, .method "dry" [] none] },
    { target := .parse "app.Tuna", members := [.method "eat" [] none] }]

theorem finished_attaches_shoal :
    shoal.place? (.parse "app.Net") = some 2 ∧ shoal.place? (.parse "app.Boat") = none ∧
      (shoal.finished.map fun t => (t.interfaces, t.members.map (·.name))) =
        [([], []), ([], ["weight", "eat"]), ([.generic "Haul"], ["haul", "mend", "dry"])] ∧
      (shoal.upTo 3).finished = (shoal.upTo 2).finished.mapIdx fun i t =>
        if i = 2 then
          { t with members := t.members ++ [.method "mend" [] none, .method "dry" [] none] }
        else t := by
  obtain ⟨unknown, known, _, run, step⟩ := shoal.finished_attaches
  have net : shoal.place? (.parse "app.Net") = some 2 :=
    (known _ _).mpr (by decide +kernel)
  refine ⟨net, (unknown _).mpr (by decide +kernel), ?_, ?_⟩
  · rw [run]
    decide +kernel
  · rw [step 2 _ rfl]
    decide +kernel

end Extracted

end Architecture.Source
