import IssueReport.Plugin.Command
import Mathlib.Data.List.Forall2
/-!
What becomes of printed diagnostics. Each is taken over with its code and message and with those of
its properties whose values fit their kinds; every other property is left out and logged. So further
properties that do not fit, wherever they are inserted, change nothing but the log.
-/

namespace IssueReport.Wire

/-! ### Properties -/

/-- The value of a property fits its kind, and then this is what the property becomes. Any number is
numeric, and any value at all fits the open kind. -/
inductive Property.Becomes : Property → IssueReport.Property → Prop
  | string (text : String) : Becomes ⟨.string, .text text⟩ (.string text)
  | symbolic (text : String) : Becomes ⟨.symbolic, .text text⟩ (.symbolic text)
  | numeric (number : Json.Number) :
      Becomes ⟨.numeric, .number number⟩ (.numeric number.toBinary64)
  | other (value : Json) : Becomes ⟨.other, value⟩ (.other (Payload.ofJson value))

def Property.Fits (property : Property) : Prop :=
  ∃ image, property.Becomes image

theorem Property.fits_of_other {property : Property} (isOther : property.kind = .other) :
    property.Fits := by
  obtain ⟨kind, value⟩ := property
  subst isOther
  exact ⟨_, .other value⟩

theorem Property.accept?_eq_some {property : Property} {image : IssueReport.Property} :
    property.accept? = some image ↔ property.Becomes image := by
  constructor
  · intro accepted
    obtain ⟨kind, value⟩ := property
    unfold accept? at accepted
    dsimp only at accepted
    split at accepted
    · cases accepted
      exact .other _
    · cases accepted
      exact .string _
    · cases accepted
      exact .symbolic _
    · cases accepted
      exact .numeric _
    · cases accepted
  · intro becomes
    cases becomes <;> rfl

theorem Property.accept?_eq_none {property : Property} :
    property.accept? = none ↔ ¬ property.Fits := by
  rw [Option.eq_none_iff_forall_ne_some, Fits, not_exists]
  exact forall_congr' fun image => not_congr accept?_eq_some

theorem Diagnostic.other_notMem_dropped (diagnostic : Diagnostic) :
    .other ∉ diagnostic.dropped := by
  intro member
  obtain ⟨property, left, isOther⟩ := List.mem_map.mp member
  have refused := Option.isNone_iff_eq_none.mp (List.mem_filter.mp left).2
  exact Property.accept?_eq_none.mp refused (Property.fits_of_other isOther)

/-- Properties are sifted: the images of those that fit, and the kinds of the others, both in the
order of the properties. -/
inductive Sifts : List Property → List IssueReport.Property → List PropertyKind → Prop
  | nil : Sifts [] [] []
  | fitting {property : Property} {image : IssueReport.Property} {properties : List Property}
      {images : List IssueReport.Property} {kinds : List PropertyKind}
      (becomes : property.Becomes image) (rest : Sifts properties images kinds) :
      Sifts (property :: properties) (image :: images) kinds
  | unfit {property : Property} {properties : List Property}
      {images : List IssueReport.Property} {kinds : List PropertyKind}
      (unfit : ¬ property.Fits) (rest : Sifts properties images kinds) :
      Sifts (property :: properties) images (property.kind :: kinds)

theorem sifts_accept? (properties : List Property) :
    Sifts properties (properties.filterMap Property.accept?)
      ((properties.filter fun property => property.accept?.isNone).map (·.kind)) := by
  induction properties with
  | nil => exact .nil
  | cons property properties ih =>
      cases accepted : property.accept? with
      | some image =>
          rw [List.filterMap_cons_some accepted]
          simp only [List.filter_cons, accepted, Option.isNone_some, Bool.false_eq_true, if_false]
          exact .fitting (Property.accept?_eq_some.mp accepted) ih
      | none =>
          rw [List.filterMap_cons_none accepted]
          simp only [List.filter_cons, accepted, Option.isNone_none, if_true, List.map_cons]
          exact .unfit (Property.accept?_eq_none.mp accepted) ih

theorem Property.Becomes.unique {property : Property} {first second : IssueReport.Property}
    (becomesFirst : property.Becomes first) (becomesSecond : property.Becomes second) :
    first = second := by
  rw [← accept?_eq_some] at becomesFirst becomesSecond
  exact Option.some.inj (becomesFirst.symm.trans becomesSecond)

theorem Sifts.unique {properties : List Property} {first second : List IssueReport.Property}
    {firstKinds secondKinds : List PropertyKind} (sifts : Sifts properties first firstKinds)
    (others : Sifts properties second secondKinds) :
    first = second ∧ firstKinds = secondKinds := by
  -- what one of them keeps as fitting the other cannot leave out
  induction sifts generalizing second secondKinds with
  | nil =>
      cases others
      exact ⟨rfl, rfl⟩
  | fitting becomes _ ih =>
      cases others with
      | fitting becomesToo rest =>
          obtain ⟨images, kinds⟩ := ih rest
          exact ⟨by rw [becomes.unique becomesToo, images], kinds⟩
      | unfit unfit _ => exact absurd ⟨_, becomes⟩ unfit
  | unfit unfit _ ih =>
      cases others with
      | fitting becomes _ => exact absurd ⟨_, becomes⟩ unfit
      | unfit _ rest =>
          obtain ⟨images, kinds⟩ := ih rest
          exact ⟨images, by rw [kinds]⟩

/-! ### Diagnostics -/

/-- Printed diagnostics are taken over: one for each, in their order, and one event for each property
that does not fit. -/
inductive TakenOver : List Diagnostic → List IssueReport.Diagnostic → List Event → Prop
  | nil : TakenOver [] [] []
  | cons {printed : Diagnostic} {images : List IssueReport.Property} {kinds : List PropertyKind}
      {found : List Diagnostic} {diagnostics : List IssueReport.Diagnostic} {events : List Event}
      (sifts : Sifts printed.properties images kinds) (rest : TakenOver found diagnostics events) :
      TakenOver (printed :: found) (⟨printed.code, printed.message, images⟩ :: diagnostics)
        (kinds.map (.propertyDropped printed.code) ++ events)

def droppedEvents (found : List Diagnostic) : List Event :=
  found.flatMap fun diagnostic => diagnostic.dropped.map (.propertyDropped diagnostic.code)

theorem takenOver_accept (found : List Diagnostic) :
    TakenOver found (found.map Diagnostic.accept) (droppedEvents found) := by
  induction found with
  | nil => exact .nil
  | cons printed found ih => exact .cons (sifts_accept? printed.properties) ih

theorem takenOver_iff {found : List Diagnostic} {diagnostics : List IssueReport.Diagnostic}
    {events : List Event} :
    TakenOver found diagnostics events ↔
      diagnostics = found.map Diagnostic.accept ∧ events = droppedEvents found := by
  constructor
  · intro taken
    induction taken with
    | nil => exact ⟨rfl, rfl⟩
    | @cons printed images kinds found diagnostics events sifts _ ih =>
        obtain ⟨sameImages, sameKinds⟩ := sifts.unique (sifts_accept? printed.properties)
        rw [ih.1, ih.2, sameImages, sameKinds]
        exact ⟨rfl, rfl⟩
  · rintro ⟨rfl, rfl⟩
    exact takenOver_accept found

/-! ### Further properties that do not fit -/

/-- Properties with further ones that do not fit, inserted anywhere. -/
inductive PropertiesPadded : List Property → List Property → Prop
  | nil : PropertiesPadded [] []
  | keep (property : Property) {properties padded : List Property}
      (rest : PropertiesPadded properties padded) :
      PropertiesPadded (property :: properties) (property :: padded)
  | insert {property : Property} {properties padded : List Property} (unfit : ¬ property.Fits)
      (rest : PropertiesPadded properties padded) :
      PropertiesPadded properties (property :: padded)

theorem PropertiesPadded.accept?_eq {properties padded : List Property}
    (pads : PropertiesPadded properties padded) :
    padded.filterMap Property.accept? = properties.filterMap Property.accept? := by
  induction pads with
  | nil => rfl
  | keep property _ ih => rw [List.filterMap_cons, List.filterMap_cons, ih]
  | insert unfit _ ih => rw [List.filterMap_cons_none (Property.accept?_eq_none.mpr unfit), ih]

structure Diagnostic.Padded (diagnostic padded : Diagnostic) : Prop where
  code : padded.code = diagnostic.code
  message : padded.message = diagnostic.message
  properties : PropertiesPadded diagnostic.properties padded.properties

theorem Diagnostic.Padded.accept_eq {diagnostic padded : Diagnostic}
    (pads : diagnostic.Padded padded) : padded.accept = diagnostic.accept := by
  simp only [accept, pads.code, pads.message, pads.properties.accept?_eq]

theorem map_accept_of_padded {found padded : List Diagnostic}
    (pads : List.Forall₂ Diagnostic.Padded found padded) :
    padded.map Diagnostic.accept = found.map Diagnostic.accept := by
  induction pads with
  | nil => rfl
  | cons first _ ih => rw [List.map_cons, List.map_cons, first.accept_eq, ih]

end IssueReport.Wire

namespace IssueReport.CommandPlugin

open Wire (TakenOver)

theorem diagnosticsOf_of_takenOver {output : List UInt8} {found : List Wire.Diagnostic}
    {diagnostics : List Diagnostic} {events : List Event}
    (parsed : Wire.parse output = .ok found) (taken : TakenOver found diagnostics events)
    (command : String) (tree : FileTree) :
    diagnosticsOf command tree output = ⟨.ok diagnostics, events, tree⟩ := by
  obtain ⟨sameDiagnostics, sameEvents⟩ := Wire.takenOver_iff.mp taken
  rw [diagnosticsOf, parsed, sameDiagnostics, sameEvents]
  rfl

theorem dropped_of_mem_events {starter : Starter} {plugin : CommandPlugin} {tree : FileTree}
    {input : PluginInput} {event : Event}
    (member : event ∈ (plugin.analyze starter tree input).events) :
    ∃ code kind, event = .propertyDropped code kind := by
  unfold analyze at member
  split at member
  · cases member
  · split at member
    · unfold diagnosticsOf at member
      split at member
      · cases member
      · obtain ⟨diagnostic, -, among⟩ := List.mem_flatMap.mp member
        obtain ⟨kind, -, same⟩ := List.mem_map.mp among
        exact ⟨diagnostic.code, kind, same.symm⟩
    · cases member

end IssueReport.CommandPlugin
