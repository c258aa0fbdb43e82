import Architecture.Proofs.Source.Visits

/-!
# Descriptors of what is declared

Both walks through the items of a package name a type by the module in which it stands, and
implementations that are attached afterwards change no names. So the types of a package have
the keys of its declarations, in the same order.
-/

namespace Architecture.Source

theorem Part.keys_attach (p : Part) (types : List TypeDescriptor) :
    (p.attach types).map (·.key) = types.map (·.key) := by
  induction types with
  | nil => rfl
  | cons t rest inductionHypothesis =>
      rw [attach]
      split
      · rfl
      · rw [List.map_cons, List.map_cons, inductionHypothesis]

theorem Extracted.keys_finished (e : Extracted) :
    e.finished.map (·.key) = e.types.map (·.key) := by
  have attached : ∀ (parts : List Part) (types : List TypeDescriptor),
      (parts.foldl (fun types p => p.attach types) types).map (·.key) = types.map (·.key) := by
    intro parts
    induction parts with
    | nil => exact fun _ => rfl
    | cons p rest inductionHypothesis =>
        intro types
        rw [List.foldl_cons, inductionHypothesis, p.keys_attach]
  exact attached e.parts e.types

/-- The types of a package are its declarations, one for one. -/
theorem keys_packageTypes [SourceNotation] {package : String} {files : List SourceFile}
    {types : List TypeDescriptor} (extracted : packageTypes package files = .ok types) :
    types.map (·.key) =
      (Declarations.ofFiles package files).types.map (Declarations.ofFiles package files).key := by
  obtain ⟨e, declared, made⟩ := bind_eq_ok_iff.mp extracted
  cases made
  obtain ⟨emitted, _, described, recorded, each⟩ := exists_emissions_ofFiles declared package
  rw [Extracted.keys_finished, ← described, ← recorded, List.map_map, List.map_map]
  exact List.map_congr_left fun m member => (each m member).1

theorem exists_mem_of_packageTypes [SourceNotation] {package : String} {files : List SourceFile}
    {types : List TypeDescriptor} (extracted : packageTypes package files = .ok types)
    {home : List String} {name : String}
    (declared : (Declarations.ofFiles package files).declares home name = true) :
    ∃ t ∈ types, t.key = ⟨(Declarations.ofFiles package files).typeName home name, package⟩ := by
  have member : (Declarations.ofFiles package files).key (home, name) ∈ types.map (·.key) := by
    rw [keys_packageTypes extracted]
    exact List.mem_map_of_mem (List.contains_iff_mem.mp declared)
  exact List.mem_map.mp member

end Architecture.Source
