import IssueReport.Proofs.Diagnostic.Acceptance
import IssueReport.Proofs.Pipeline.Isolation
import IssueReport.Proofs.Walker.Alike
/-!
Reports and properties that do not fit. Programs that print further properties whose values do not fit
their kinds find the same as before, so that a run makes the same report, with its failures at the
same positions.
-/

namespace IssueReport

/-! ### Programs that print more -/

/-- Two starts of a program go alike, but the output of the second may have further properties that
do not fit. -/
inductive CommandPlugin.StartsPadded :
    Except StartError Command.Result → Except StartError Command.Result → Prop
  | same (start : Except StartError Command.Result) : StartsPadded start start
  | padded {result : Command.Result} {output : List UInt8} {found padded : List Wire.Diagnostic}
      (parsed : Wire.parse result.output = .ok found)
      (parsedPadded : Wire.parse output = .ok padded)
      (pads : List.Forall₂ Wire.Diagnostic.Padded found padded) :
      StartsPadded (.ok result) (.ok { result with output := output })

inductive Plugin.Padded : Plugin → Plugin → Prop
  | same (plugin : Plugin) : Padded plugin plugin
  | program (plugin : CommandPlugin) {starter padded : CommandPlugin.Starter}
      (starts : ∀ tree input,
        CommandPlugin.StartsPadded (CommandPlugin.startOn starter plugin tree input)
          (CommandPlugin.startOn padded plugin tree input)) :
      Padded (plugin.pluginOf starter) (plugin.pluginOf padded)

namespace CommandPlugin

theorem diagnosticsOf_padded {output more : List UInt8} {found padded : List Wire.Diagnostic}
    (parsed : Wire.parse output = .ok found) (parsedPadded : Wire.parse more = .ok padded)
    (pads : List.Forall₂ Wire.Diagnostic.Padded found padded) (command : String)
    (tree : FileTree) :
    (diagnosticsOf command tree output).outcome = (diagnosticsOf command tree more).outcome ∧
      (diagnosticsOf command tree output).tree = (diagnosticsOf command tree more).tree := by
  rw [diagnosticsOf_of_takenOver parsed (Wire.takenOver_accept found),
    diagnosticsOf_of_takenOver parsedPadded (Wire.takenOver_accept padded),
    Wire.map_accept_of_padded pads]
  exact ⟨rfl, rfl⟩

theorem analyze_padded {plugin : CommandPlugin} {starter padded : Starter} {tree : FileTree}
    {input : PluginInput}
    (starts : StartsPadded (startOn starter plugin tree input)
      (startOn padded plugin tree input)) :
    (plugin.analyze starter tree input).outcome = (plugin.analyze padded tree input).outcome ∧
      (plugin.analyze starter tree input).tree = (plugin.analyze padded tree input).tree := by
  unfold analyze
  generalize startOn starter plugin tree input = first at starts ⊢
  generalize startOn padded plugin tree input = second at starts ⊢
  cases starts with
  | same => exact ⟨rfl, rfl⟩
  | @padded result output found padded parsed parsedPadded pads =>
      by_cases succeeded : result.ending = .exit 0
      · simp only [if_pos succeeded]
        exact diagnosticsOf_padded parsed parsedPadded pads plugin.command result.tree
      · dsimp only
        rw [if_neg succeeded, if_neg succeeded]
        exact ⟨rfl, rfl⟩

end CommandPlugin

theorem Plugin.Padded.findsAlike {plugin padded : Plugin} (pads : plugin.Padded padded) :
    plugin.FindsAlike padded := by
  cases pads with
  | same => exact .refl plugin
  | program plugin starts =>
      exact ⟨fun tree input => (CommandPlugin.analyze_padded (starts tree input)).1,
        fun tree input => (CommandPlugin.analyze_padded (starts tree input)).2⟩

/-- What holds of a list of printed diagnostics: those that fit are taken over, and the others are
logged. -/
structure Wire.TakesFitting (found : List Wire.Diagnostic) : Prop where
  /-- There is one diagnostic for each, with the properties that fit, and one event for each property
  that does not. -/
  takenOver : ∀ diagnostics events, TakenOver found diagnostics events ↔
    diagnostics = found.map Diagnostic.accept ∧ events = droppedEvents found
  openKept : ∀ diagnostic ∈ found, .other ∉ diagnostic.dropped
  /-- This is what becomes of an output in which these diagnostics are read. -/
  printed : ∀ output, Wire.parse output = .ok found → ∀ command tree,
    CommandPlugin.diagnosticsOf command tree output =
      ⟨.ok (found.map Diagnostic.accept), droppedEvents found, tree⟩
  /-- Further properties that do not fit, wherever they are, do not change the diagnostics. -/
  padded : ∀ padded, List.Forall₂ Diagnostic.Padded found padded →
    padded.map Diagnostic.accept = found.map Diagnostic.accept

theorem Wire.takesFitting (found : List Wire.Diagnostic) : Wire.TakesFitting found where
  takenOver := fun _ _ => takenOver_iff
  openKept := fun diagnostic _ => diagnostic.other_notMem_dropped
  printed := fun _ parsed command tree =>
    CommandPlugin.diagnosticsOf_of_takenOver parsed (takenOver_accept found) command tree
  padded := fun _ pads => map_accept_of_padded pads

namespace Pipeline

/-! ### Runs -/

section Alike

variable {first second : Walker} (alike : first.Alike second) {state other : WalkState}

include alike

theorem firstScan_of_alike (knows : state.KnowsAlike other) (code : String) (localCheck : Bool) :
    (firstScan ⟨first, code, localCheck⟩ state).1 =
        (firstScan ⟨second, code, localCheck⟩ other).1 ∧
      (firstScan ⟨first, code, localCheck⟩ state).2.KnowsAlike
        (firstScan ⟨second, code, localCheck⟩ other).2 := by
  unfold firstScan
  dsimp only
  rw [← alike.pairs_eq]
  cases first.pairs with
  | nil => exact ⟨rfl, knows⟩
  | cons pair pairs => exact alike.projectDiagnostics (alike.compile knows pair.1).2

theorem twoPhase_of_alike (code : String) (localCheck : Bool) (diagnostics : List Diagnostic) :
    twoPhase ⟨first, code, localCheck⟩ diagnostics =
      twoPhase ⟨second, code, localCheck⟩ diagnostics := by
  unfold twoPhase
  dsimp only
  rw [← Walker.pairs_map_snd, ← Walker.pairs_map_snd, alike.pairs_eq]
  rfl

theorem run_of_alike (coherent : first.Coherent state) (otherCoherent : second.Coherent other)
    (knows : state.KnowsAlike other) (code : String) (localCheck : Bool) :
    (run ⟨first, code, localCheck⟩ state).1 = (run ⟨second, code, localCheck⟩ other).1 ∧
      (run ⟨first, code, localCheck⟩ state).2.KnowsAlike
        (run ⟨second, code, localCheck⟩ other).2 := by
  obtain ⟨scanned, last⟩ := firstScan_of_alike alike knows code localCheck
  rw [@run_eq_firstScan ⟨first, code, localCheck⟩ state coherent,
    @run_eq_firstScan ⟨second, code, localCheck⟩ other otherCoherent, scanned,
    twoPhase_of_alike alike]
  exact ⟨rfl, last.log _ _⟩

end Alike

/-- Printed diagnostics are taken over with the properties that fit, and the others are logged. A run
does not depend on these others, wherever in the outputs of its programs they are inserted. -/
theorem takesFitting_of_opened :
    (∀ found, Wire.TakesFitting found) ∧
      ∀ {tree : FileTree} {here : Location} {path : String} {plugins padded : List Plugin}
        {exclusions : Exclusions} {walker paddedWalker : Walker} {state paddedState : WalkState},
        Walker.load tree here path plugins exclusions = .ok (walker, state) →
        Walker.load tree here path padded exclusions = .ok (paddedWalker, paddedState) →
        List.Forall₂ Plugin.Padded plugins padded → ∀ (code : String) (localCheck : Bool),
          (run ⟨walker, code, localCheck⟩ state).1 =
              (run ⟨paddedWalker, code, localCheck⟩ paddedState).1 ∧
            (run ⟨walker, code, localCheck⟩ state).2.KnowsAlike
              (run ⟨paddedWalker, code, localCheck⟩ paddedState).2 := by
  refine ⟨Wire.takesFitting, ?_⟩
  intro tree here path plugins padded exclusions walker paddedWalker state paddedState opened
    paddedOpened pads code localCheck
  have coherent := Walker.coherent_of_opened opened
  have paddedCoherent := Walker.coherent_of_opened paddedOpened
  obtain ⟨project, loaded, rfl, rfl⟩ := Walker.load_eq_ok.mp opened
  obtain ⟨paddedProject, paddedLoaded, rfl, rfl⟩ := Walker.load_eq_ok.mp paddedOpened
  obtain rfl : project = paddedProject := Except.ok.inj (loaded.symm.trans paddedLoaded)
  have alike : Walker.Alike ⟨project, plugins, exclusions⟩ ⟨project, padded, exclusions⟩ :=
    ⟨rfl, rfl, pads.imp fun _ _ => Plugin.Padded.findsAlike⟩
  exact run_of_alike alike coherent paddedCoherent ⟨rfl, rfl, rfl⟩ code localCheck

def scanner : CommandPlugin := ⟨"scanner", "scan", []⟩

def printing (text : List UInt8) : CommandPlugin.Starter :=
  fun tree _ _ _ => .ok (Command.Program.quiet tree text 0)

def fittingText : Json.Input := Text.utf8
  "[\x7b\"code\": \"SCAN_TOOL_DIAGNOSTICS\", \"properties\":
    [\x7b\"kind\": \"other\", \"value\": null\x7d]\x7d]"

def mismatchedText : Json.Input := Text.utf8
  "[\x7b\"code\": \"SCAN_TOOL_DIAGNOSTICS\", \"properties\":
    [\x7b\"kind\": \"string\", \"value\": 7\x7d, \x7b\"kind\": \"other\", \"value\": null\x7d,
      [\"numeric\", \"3\"]]\x7d]"

def fittingFound : List Wire.Diagnostic :=
  [⟨pluginCode, "", [⟨.other, .null⟩]⟩]

def mismatchedFound : List Wire.Diagnostic :=
  [⟨pluginCode, "",
    [⟨.string, .number (.integer 7)⟩, ⟨.other, .null⟩, ⟨.numeric, .text "3"⟩]⟩]

theorem padded_mismatchedFound :
    List.Forall₂ Wire.Diagnostic.Padded fittingFound mismatchedFound := by
  have string : ¬ Wire.Property.Fits ⟨.string, .number (.integer 7)⟩ := by
    rintro ⟨image, becomes⟩
    cases becomes
  have numeric : ¬ Wire.Property.Fits ⟨.numeric, .text "3"⟩ := by
    rintro ⟨image, becomes⟩
    cases becomes
  exact .cons ⟨rfl, rfl, .insert string (.keep _ (.insert numeric .nil))⟩ .nil

set_option maxRecDepth 20000 in
theorem padded_scanner :
    (scanner.pluginOf (printing fittingText)).Padded
      (scanner.pluginOf (printing mismatchedText)) := by
  have parsed : Wire.parse fittingText = .ok fittingFound := by rfl
  have parsedPadded : Wire.parse mismatchedText = .ok mismatchedFound := by rfl
  exact .program scanner fun _ _ => .padded parsed parsedPadded padded_mismatchedFound

def scanningPlugins (text : List UInt8) : List Plugin :=
  [marker, scanner.pluginOf (printing text), brittle]

def scanningWalker (text : List UInt8) : Walker :=
  ⟨Walker.smallProject, scanningPlugins text, Exclusions.none⟩

theorem load_scanningWalker (text : List UInt8) :
    Walker.load Walker.smallPackage [] "/shop" (scanningPlugins text) Exclusions.none =
      .ok (scanningWalker text, Walker.smallState) :=
  Walker.load_smallPackage _ _

theorem takesFitting_mismatched :
    List.Forall₂ Plugin.Padded (scanningPlugins fittingText) (scanningPlugins mismatchedText) ∧
      Wire.TakesFitting mismatchedFound ∧
      (run ⟨scanningWalker fittingText, pluginCode, true⟩ Walker.smallState).1 =
        (run ⟨scanningWalker mismatchedText, pluginCode, true⟩ Walker.smallState).1 ∧
      (run ⟨scanningWalker fittingText, pluginCode, true⟩ Walker.smallState).2.KnowsAlike
        (run ⟨scanningWalker mismatchedText, pluginCode, true⟩ Walker.smallState).2 := by
  have pads : List.Forall₂ Plugin.Padded (scanningPlugins fittingText)
      (scanningPlugins mismatchedText) :=
    .cons (.same marker) (.cons padded_scanner (.cons (.same brittle) .nil))
  exact ⟨pads, takesFitting_of_opened.1 mismatchedFound,
    takesFitting_of_opened.2 (load_scanningWalker fittingText)
      (load_scanningWalker mismatchedText) pads pluginCode true⟩

end Pipeline

end IssueReport
