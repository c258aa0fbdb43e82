import Architecture.Proofs.Descriptor.Codec
import Architecture.Snapshot

/-!
# Snapshots that are written and read

A snapshot holds a list of modules under one name, or a single module as it is. No field
of a module has the name under which a list stands, so a module is never mistaken for a
list, and either form is read back as it was written.
-/

namespace Architecture.Snapshot

open Data

variable {modules : List ModuleDescriptor} {m : ModuleDescriptor}

theorem decode?_encode (parsed : ∀ m ∈ modules, m.NamesParsed) :
    decode? (encode modules) = some modules := by
  have read : (Value.list (modules.map ModuleDescriptor.encode)).listOf? ModuleDescriptor.decode? =
      some modules :=
    listOf?_map fun m member => ModuleDescriptor.decode?_encode (parsed m member)
  have many : decode?.many? (encode modules) = some modules := by
    simp [encode, decode?.many?, Value.fields?, required?, read]
  rw [decode?, many]
  rfl

theorem decode?_encode_single (parsed : m.NamesParsed) : decode? m.encode = some [m] := by
  have names : ((present m.entries).map Prod.fst).Sublist
      ["name", "version", "references", "types"] := names_present_sublist m.entries
  have unlisted : (present m.entries).filter (["modules"].contains ·.1) = [] := by
    rw [List.filter_eq_nil_iff]
    intro field member
    have known := names.subset (List.mem_map_of_mem member)
    rw [List.contains_iff_mem, List.mem_singleton]
    intro same
    rw [same] at known
    exact absurd known (by decide)
  have many : decode?.many? m.encode = none := by
    rw [ModuleDescriptor.encode_eq, decode?.many?]
    simp only [Value.fields?, unlisted]
    rfl
  rw [decode?, many, ModuleDescriptor.decode?_encode parsed]
  rfl

theorem yields_decode? : Yields decode? fun modules => ∀ m ∈ modules, m.NamesParsed := by
  intro v modules decoded
  rw [decode?, Option.orElse_eq_orElse, Option.orElse_eq_or, Option.or_eq_some_iff] at decoded
  rcases decoded with many | ⟨_, single⟩
  · unfold decode?.many? at many
    split at many
    next fields =>
      rcases Option.bind_eq_some_iff.mp many with ⟨known, _, read⟩
      exact ModuleDescriptor.yields_decode?.listOf.required read
    next => cases many
  · rcases Option.map_eq_some_iff.mp single with ⟨m, read, rfl⟩
    simpa using ModuleDescriptor.yields_decode? v m read

/-- Modules whose type names were read from texts are read back as they were written, one
by one and as snapshots of either form. What is read from any value is of this kind. -/
theorem decode?_roundTrip :
    (∀ m : ModuleDescriptor, m.NamesParsed →
        ModuleDescriptor.decode? m.encode = some m ∧ decode? m.encode = some [m]) ∧
      (∀ modules : List ModuleDescriptor, (∀ m ∈ modules, m.NamesParsed) →
        decode? (encode modules) = some modules) ∧
      (∀ v m, ModuleDescriptor.decode? v = some m →
        ModuleDescriptor.decode? m.encode = ModuleDescriptor.decode? v) ∧
      ∀ v modules, decode? v = some modules → decode? (encode modules) = decode? v := by
  refine ⟨?_, ?_, ?_, ?_⟩
  · exact fun m parsed => ⟨ModuleDescriptor.decode?_encode parsed, decode?_encode_single parsed⟩
  · exact fun modules parsed => decode?_encode parsed
  · intro v m decoded
    rw [decoded, ModuleDescriptor.decode?_encode (ModuleDescriptor.yields_decode? v m decoded)]
  · intro v modules decoded
    rw [decoded, decode?_encode (yields_decode? v modules decoded)]

/-- A module with a type that has something in every field, and one of which all that may
be left out is left out. -/
def jobModule : ModuleDescriptor where
  name := "App"
  version := some "1.2"
  references := [{ name := "Lib" }, { name := "Log", version := some "3" }]
  types := [
    { name := .parse "App.Core.Job", owner := "App", kind := .record, access := .private
      base := some (.named (.parse "Lib.Map") "Lib"
        [.generic "T", .named (.parse "Lib.List") "" [.named (.parse "Job") "App" []]])
      interfaces := [.named (.parse "Lib.Closeable") "" []]
      members := [
        { name := "run", kind := .method, parameters := [.generic "T"]
          valueType := some (.named (.parse "Lib.Task") "Lib" [.generic "T"])
          attributes := [
            { name := .parse "Lib.Retry", arguments := .ofList [("times", "3"), ("delay", "1")] }]
          implements := some { name := .parse "Lib.Runner", args := [.generic "T"] } }]
      attributes := [{ name := .parse "Sealed", arguments := .ofList [] }]
      enclosing := some (.parse "App.Core.Queue")
      genericParameters := ["T"] },
    { name := .parse "Plain", kind := .plainClass }]

/-- A module as a list of its fields, with a name whose namespace is empty. -/
def bareModule : Value :=
  .list [.text "App", .null, .list [],
    .list [.record [("name", .text ".Job"), ("kind", .record [("struct", .null)]),
      ("access", .text "Public"), ("interfaces", .list [.list [.text "Lib.Runner"]])]]]

theorem decode?_roundTrip_jobModule :
    jobModule.NamesParsed ∧ ModuleDescriptor.decode? jobModule.encode = some jobModule ∧
      decode? jobModule.encode = some [jobModule] ∧
      decode? (encode [jobModule, jobModule]) = some [jobModule, jobModule] ∧
      ∃ m, ModuleDescriptor.decode? bareModule = some m ∧
        ModuleDescriptor.decode? m.encode = some m := by
  rcases decode?_roundTrip with ⟨single, many, again, _⟩
  have text : ∀ s, (TypeName.parse s).IsParsed := fun s => ⟨s, rfl⟩
  have parsed : jobModule.NamesParsed := by
    intro t member
    simp only [jobModule, List.mem_cons, List.not_mem_nil, or_false] at member
    rcases member with rfl | rfl
    · constructor <;> simp [text, TypeRef.namesParsed_named, TypeRef.namesParsed_generic]
      constructor <;>
        simp [text, NamedRef.NamesParsed, NamedRef.toRef, TypeRef.namesParsed_named,
          TypeRef.namesParsed_generic]
    · constructor <;> simp [text]
  obtain ⟨m, decoded⟩ : ∃ m, ModuleDescriptor.decode? bareModule = some m := ⟨_, rfl⟩
  refine ⟨parsed, (single jobModule parsed).1, (single jobModule parsed).2, ?_, m, decoded, ?_⟩
  · exact many _ (by simpa using parsed)
  · exact (again bareModule m decoded).trans decoded

end Architecture.Snapshot
