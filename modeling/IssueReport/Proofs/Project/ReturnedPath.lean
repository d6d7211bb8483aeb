import IssueReport.Proofs.Project.PathCheck
import IssueReport.Proofs.Text.Lossy
/-!
The path that a check gives back. A dot and a slash at the start of a path take a step on the spot,
so the rest leads to the same place where it does not start from the root; a dot and a backslash are
the start of a name. What is dropped is looked for in the text that is shown for the path.
-/

namespace IssueReport

namespace Path

variable {tree : FileTree} {here location : Location} {reading : Reading} {argument : Option String}
  {path : String}

/-- A path that is taken leads somewhere. That of a file is given back without its start, and any
other as it is. -/
theorem resolve_of_check (checked : checkBy tree here reading argument = .ok path) :
    ∃ location, tree.resolveBy (.stepwise reading) here (given here argument) = .ok location ∧
      ((∃ content, tree.node? location = some (.file content)) ∧
          tree.isFileBy reading here (given here argument) = true ∧
          path = dropHere reading (given here argument) ∨
        tree.isFileBy reading here (given here argument) = false ∧ path = given here argument) := by
  cases found : tree.atBy reading here (given here argument) with
  | none =>
      rw [check_of_missing found] at checked
      cases checked
  | some node =>
      have present : ∃ location,
          tree.resolveBy (.stepwise reading) here (given here argument) = .ok location ∧
            tree.node? location = some node := by
        unfold FileTree.atBy at found
        split at found
        · cases found
        · split at found
          · exact ⟨_, ‹_›, found⟩
          · cases found
      obtain ⟨location, resolved, held⟩ := present
      refine ⟨location, resolved, ?_⟩
      cases node with
      | file content =>
          left
          rw [check_of_file found] at checked
          split at checked
          · cases checked
            exact ⟨⟨content, held⟩, by rw [FileTree.isFileBy, found], rfl⟩
          · cases checked
      | directory | link | device =>
          right
          rw [check_of_other found (by simp)] at checked
          split at checked
          · cases checked
            exact ⟨by rw [FileTree.isFileBy, found], rfl⟩
          · cases checked

theorem utf8ByteSize_dropHere (path : String) :
    (dropHere .utf8 path).utf8ByteSize ≤ path.utf8ByteSize := by
  have behind : ∀ start rest : String, path = start ++ rest →
      rest.utf8ByteSize ≤ path.utf8ByteSize := by
    intro start rest whole
    rw [whole, String.utf8ByteSize_append]
    omega
  unfold dropHere
  split
  · rename_i rest same
    apply behind "./"
    change path.toList = _ at same
    rw [← String.toList_inj, same, String.toList_append, @String.toList_ofList rest]
    rfl
  · rename_i rest same
    apply behind ".\\"
    change path.toList = _ at same
    rw [← String.toList_inj, same, String.toList_append, @String.toList_ofList rest]
    rfl
  · exact Nat.le_refl _

/-- A path that is taken can be looked up in one go. -/
theorem short_of_check (checked : check tree here argument = .ok path) :
    path.utf8ByteSize ≤ FileTree.pathLimit := by
  have short : (given here argument).utf8ByteSize ≤ FileTree.pathLimit := by
    apply Classical.byContradiction
    intro long
    have missing : tree.atBy .utf8 here (given here argument) = none := by
      rw [FileTree.atBy]
      exact if_pos (Nat.not_le.mp long)
    rw [check, check_of_missing missing] at checked
    cases checked
  obtain ⟨_, _, ⟨_, _, same⟩ | ⟨_, same⟩⟩ := resolve_of_check checked
  · rw [same]
    exact Nat.le_trans (utf8ByteSize_dropHere _) short
  · rw [same]
    exact short

/-- Nothing is dropped from a path, or a dot and a slash before a name. -/
structure Droppable (reading : Reading) (path : String) : Prop where
  noSlash : ¬ ".//".toList <+: (reading.shown path).toList
  noBackslash : ¬ ".\\".toList <+: (reading.shown path).toList
  /-- What is dropped from the shown text is dropped from the path. -/
  same : "./".toList <+: (reading.shown path).toList → reading.shown path = path

theorem droppable_utf8 :
    Droppable .utf8 path ↔ ¬ ".//".toList <+: path.toList ∧ ¬ ".\\".toList <+: path.toList :=
  ⟨fun droppable => ⟨droppable.noSlash, droppable.noBackslash⟩,
    fun ⟨noSlash, noBackslash⟩ => ⟨noSlash, noBackslash, fun _ => rfl⟩⟩

theorem toList_ofBytes (bytes : List UInt8) :
    (ofBytes bytes).toList = bytes.map fun byte => Char.ofNat byte.toNat :=
  String.toList_ofList

theorem toNat_ofNat_byte (byte : UInt8) : (Char.ofNat byte.toNat).toNat = byte.toNat := by
  have small := byte.toNat_lt
  rw [Char.ofNat, dif_pos (.inl (by omega))]
  rfl

theorem ofBytes_injective : Function.Injective ofBytes := by
  intro left right same
  have characters := congrArg String.toList same
  rw [toList_ofBytes, toList_ofBytes] at characters
  refine List.map_injective_iff.mpr ?_ characters
  intro first second equal
  have codes := congrArg Char.toNat equal
  rw [toNat_ofNat_byte, toNat_ofNat_byte] at codes
  exact UInt8.toNat_inj.mp codes

theorem shown_ofBytes (bytes : List UInt8) :
    Reading.bytes.shown (ofBytes bytes) = ofBytes (Text.utf8 (Text.decodeLossy bytes)) := by
  have back : (ofBytes bytes).toList.map (fun byte => UInt8.ofNat byte.toNat) = bytes := by
    rw [toList_ofBytes, List.map_map]
    refine (List.map_congr_left fun byte _ => ?_).trans (List.map_id bytes)
    change UInt8.ofNat (Char.ofNat byte.toNat).toNat = byte
    rw [toNat_ofNat_byte, UInt8.ofNat_toNat]
  change ofBytes (Text.utf8 (Text.decodeLossy ((ofBytes bytes).toList.map _))) = _
  rw [back]

theorem isPrefix_ofBytes {start : List Char} (plain : Text.IsPlain start) {bytes : List UInt8} :
    start <+: (ofBytes bytes).toList ↔ Text.encode start <+: bytes := by
  rw [toList_ofBytes]
  induction start generalizing bytes with
  | nil => simp [Text.encode]
  | cons character start ih =>
      obtain ⟨ascii, -⟩ := plain character List.mem_cons_self
      have later : Text.IsPlain start :=
        fun other member => plain other (List.mem_cons_of_mem _ member)
      have code : (UInt8.ofNat character.toNat).toNat = character.toNat := by
        rw [UInt8.toNat_ofNat']
        omega
      rw [Text.encode_cons, Text.utf8EncodeChar_of_ascii ascii, List.singleton_append]
      cases bytes with
      | nil => simp
      | cons byte bytes =>
          rw [List.map_cons, List.cons_prefix_cons, List.cons_prefix_cons, ih later,
            and_congr_left_iff]
          intro _
          rw [← Char.toNat_inj, toNat_ofNat_byte, ← UInt8.toNat_inj, code]

theorem shown_isPrefix {start : List Char} (plain : Text.IsPlain start) {bytes : List UInt8} :
    start <+: (Reading.bytes.shown (ofBytes bytes)).toList ↔ Text.encode start <+: bytes := by
  rw [shown_ofBytes, isPrefix_ofBytes plain, Text.utf8_eq_encode, Text.decodeLossy,
    String.toList_ofList, Text.encode_isPrefix_decodeAfter plain]

/-- Of a path of bytes a dot and a slash are dropped rightly if no slash follows and it is UTF-8. -/
theorem droppable_ofBytes {bytes : List UInt8} :
    Droppable .bytes (ofBytes bytes) ↔
      ¬ Text.utf8 ".//" <+: bytes ∧ ¬ Text.utf8 ".\\" <+: bytes ∧
        (Text.utf8 "./" <+: bytes → ∃ text, bytes = Text.utf8 text) := by
  have plain : ∀ start ∈ ["./".toList, ".//".toList, ".\\".toList], Text.IsPlain start := by
    decide
  have starts : ∀ start : String, start.toList ∈ ["./".toList, ".//".toList, ".\\".toList] →
      (start.toList <+: (Reading.bytes.shown (ofBytes bytes)).toList ↔
        Text.utf8 start <+: bytes) := by
    intro start member
    rw [shown_isPrefix (plain _ member), Text.utf8_eq_encode]
  have same : Reading.bytes.shown (ofBytes bytes) = ofBytes bytes ↔
      ∃ text, bytes = Text.utf8 text := by
    rw [shown_ofBytes, ofBytes_injective.eq_iff]
    constructor
    · intro read
      exact ⟨_, read.symm⟩
    · rintro ⟨text, rfl⟩
      rw [Text.decodeLossy_utf8]
  rw [← starts ".//" (by decide), ← starts ".\\" (by decide), ← starts "./" (by decide), ← same]
  exact ⟨fun droppable => ⟨droppable.noSlash, droppable.noBackslash, droppable.same⟩,
    fun ⟨noSlash, noBackslash, same⟩ => ⟨noSlash, noBackslash, same⟩⟩

/-- Without its dot and slash a path leads where it led, if what is left does not start from the
root. -/
theorem resolve_dropHere {content : List UInt8}
    (resolved : tree.resolveBy (.stepwise reading) here path = .ok location)
    (isFile : tree.node? location = some (.file content)) (droppable : Droppable reading path) :
    tree.resolveBy (.stepwise reading) here (dropHere reading path) = .ok location := by
  unfold dropHere
  split
  · rename_i rest same
    have shown := droppable.same ⟨rest, same.symm⟩
    rw [shown] at same
    obtain ⟨free, _, links, few, leads⟩ := FileTree.resolveBy_eq_ok.mp resolved
    have whole : path.toList = ['.'] ++ '/' :: (String.ofList rest).toList := by
      rw [same, String.toList_ofList]
      rfl
    have relative : isAbsolute path = false := by
      rw [isAbsolute, same]
      rfl
    have relativeRest : isAbsolute (String.ofList rest) = false := by
      unfold isAbsolute
      rw [decide_eq_false_iff_not, String.toList_ofList]
      intro starts
      obtain ⟨after, split⟩ := List.head?_eq_some_iff.mp starts
      apply droppable.noSlash
      rw [shown, same, split]
      exact ⟨after, rfl⟩
    rw [steps_of_slash whole (by decide), FileTree.startOf, relative] at leads
    obtain ⟨directory, onward⟩ := leads.of_here
    refine FileTree.resolveBy_eq_ok.mpr ⟨?_, ?_, links, few, ?_⟩
    · rw [String.toList_ofList]
      intro nul
      rw [same] at free
      exact free (List.mem_cons_of_mem _ (List.mem_cons_of_mem _ nul))
    · intro empty
      rw [empty] at onward
      cases onward.of_here.2
      change tree.node? here = _ at directory
      change tree.node? here = _ at isFile
      rw [directory] at isFile
      cases isFile
    · rw [FileTree.startOf, relativeRest]
      exact onward
  · rename_i rest same
    exact absurd ⟨rest, same.symm⟩ droppable.noBackslash
  · exact resolved

theorem append_dropHere (shown : reading.shown path = path)
    (backslash : ".\\".toList <+: path.toList) : path = ".\\" ++ dropHere reading path := by
  obtain ⟨rest, split⟩ := backslash
  have same : path = ".\\" ++ String.ofList rest := by
    rw [← String.toList_inj, ← split, String.toList_append, @String.toList_ofList rest]
  have dropped : dropHere reading path = String.ofList rest := by
    unfold dropHere
    rw [shown, ← split]
    rfl
  rw [dropped]
  exact same

/-- The path that is given back leads where the given one leads. Excepted are files from whose path
something is dropped that is not a step on the spot: a dot and a backslash, although the backslash is
part of the name, or a dot and a slash before another slash or in a text that is not that of the
path. -/
structure GivesBack (tree : FileTree) (here : Location) (reading : Reading) (given path : String) :
    Prop where
  samePlace : (tree.isFileBy reading here given = true → Droppable reading given) →
    ∃ location, tree.resolveBy (.stepwise reading) here given = .ok location ∧
      tree.resolveBy (.stepwise reading) here path = .ok location
  backslash : tree.isFileBy reading here given = true → reading.shown given = given →
    ".\\".toList <+: given.toList → given = ".\\" ++ path
  directory : tree.isFileBy reading here given = false → path = given

theorem givesBack_of_check (checked : checkBy tree here reading argument = .ok path) :
    GivesBack tree here reading (given here argument) path := by
  obtain ⟨location, resolved, ⟨⟨content, held⟩, isFile, same⟩ | ⟨notFile, same⟩⟩ :=
    resolve_of_check checked
  · rw [same]
    constructor
    · intro droppable
      exact ⟨location, resolved, resolve_dropHere resolved held (droppable isFile)⟩
    · intro _ shown backslash
      exact append_dropHere shown backslash
    · intro notFile
      rw [isFile] at notFile
      cases notFile
  · rw [same]
    constructor
    · intro _
      exact ⟨location, resolved, resolved⟩
    · intro isFile
      rw [notFile] at isFile
      cases isFile
    · intro _
      rfl

/-- A source with an ordinary name, one whose name starts with a dot and a backslash, and two whose
names are those of one text, once as the bytes of Latin-1 and once with what is shown for these. -/
def oddSources : FileTree := ⟨[
  (["d"], .directory), (["d", "x.bal"], .file []), (["d", ".\\w.bal"], .file []),
  (["d", "caf\u00e9.bal"], .file []), (["d", "caf\u00ef\u00bf\u00bd.bal"], .file [1])], []⟩

/-- What is given back of a file whose path is shown as another text. -/
theorem check_of_shown {content : List UInt8} {shown : String}
    (found : tree.atBy reading here (given here argument) = some (.file content))
    (source : isSource (given here argument) = true)
    (shows : reading.shown (given here argument) = "./" ++ shown) :
    checkBy tree here reading argument = .ok shown := by
  have dropped : dropHere reading (given here argument) = shown := by
    have start : ("./" ++ shown).toList = '.' :: '/' :: shown.toList := by
      rw [String.toList_append]
      rfl
    rw [dropHere, shows, start]
    exact String.ofList_toList
  rw [check_of_file found, if_pos source, dropped]

theorem givesBack_oddSources :
    checkBy oddSources ["d"] .bytes (some "./../d//x.bal") = .ok "../d//x.bal" ∧
      GivesBack oddSources ["d"] .bytes "./../d//x.bal" "../d//x.bal" ∧
        Droppable .bytes "./../d//x.bal" := by
  have spelled : "./../d//x.bal" = ofBytes (Text.utf8 "./../d//x.bal") := by decide +kernel
  have droppable : Droppable .bytes "./../d//x.bal" := by
    rw [spelled, droppable_ofBytes]
    exact ⟨by decide +kernel, by decide +kernel, fun _ => ⟨_, rfl⟩⟩
  have shows : Reading.bytes.shown "./../d//x.bal" = "./" ++ "../d//x.bal" := by
    rw [spelled, shown_ofBytes, Text.decodeLossy_utf8, ← spelled]
    rfl
  have found : oddSources.atBy .bytes ["d"] "./../d//x.bal" = some (.file []) := by decide +kernel
  have checked : checkBy oddSources ["d"] .bytes (some "./../d//x.bal") = .ok "../d//x.bal" :=
    check_of_shown found (by decide +kernel) shows
  exact ⟨checked, givesBack_of_check checked, droppable⟩

/-- A second slash is left at the start, a backslash is taken from the start of a name, and a name that
is not UTF-8 is replaced by what is shown for it. -/
theorem leadsElsewhere_oddSources :
    (check oddSources ["d"] (some ".//x.bal") = .ok "/x.bal" ∧
      oddSources.resolve ["d"] ".//x.bal" = .ok ["d", "x.bal"] ∧
      oddSources.resolve ["d"] "/x.bal" = .error .notFound) ∧
    (check oddSources ["d"] (some ".\\w.bal") = .ok "w.bal" ∧
      oddSources.resolve ["d"] ".\\w.bal" = .ok ["d", ".\\w.bal"] ∧
      oddSources.resolve ["d"] "w.bal" = .error .notFound) ∧
    checkBy oddSources ["d"] .bytes (some "./caf\u00e9.bal") = .ok "caf\u00ef\u00bf\u00bd.bal" ∧
      oddSources.resolveBy (.stepwise .bytes) ["d"] "./caf\u00e9.bal" =
        .ok ["d", "caf\u00e9.bal"] ∧
      oddSources.resolveBy (.stepwise .bytes) ["d"] "caf\u00ef\u00bf\u00bd.bal" =
        .ok ["d", "caf\u00ef\u00bf\u00bd.bal"] := by
  have spelled : "./caf\u00e9.bal" =
      ofBytes (Text.encode "./caf".toList ++ 0xE9 :: 0x2E :: Text.encode "bal".toList) := by
    decide +kernel
  have rest : 0x2E :: Text.encode "bal".toList = Text.encode ".bal".toList := by decide +kernel
  have shows : Reading.bytes.shown "./caf\u00e9.bal" = "./" ++ "caf\u00ef\u00bf\u00bd.bal" := by
    rw [spelled, shown_ofBytes, Text.decodeLossy, Text.decodeAfter_encode_append,
      @Text.decodeAfter_broken _ 0xE9 0x2E ⟨9, 2, 0x80, 0xBF⟩ rfl (by decide), rest,
      Text.decodeAfter_encode]
    decide +kernel
  have found : oddSources.atBy .bytes ["d"] "./caf\u00e9.bal" = some (.file []) := by decide +kernel
  exact ⟨by decide +kernel, by decide +kernel,
    check_of_shown found (by decide +kernel) shows, by decide +kernel⟩

end Path

end IssueReport
