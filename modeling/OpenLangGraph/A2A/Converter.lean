import OpenLangGraph.Foundation.Json
import OpenLangGraph.Foundation.Traversal

/-!
# Messages of other agents

`a2a/converter.py`: a message of the A2A protocol becomes one of LangChain.

## Attributes that are not there

A file of the protocol is given by its URI or by its bytes, and only the first kind has an attribute
`uri`. Both have a media type that may be `None`, which has no `startswith`. Such a file ends the
conversion with an exception. Where a part is a dictionary, as older callers send it, `get` finds
what is there.

## Implementation notes

The types of the protocol library are here with the fields that the conversion reads. A dictionary
part may have anything under its keys.

## Main definitions

* `File`, `Root`, `AnyPart`, `AnyMessage`
* `extractPartInfo`, `partsToLangchainContent`, `a2aToLangchain`
* `Converts`, `TotalConversion` — what is asked
* `Convertible` — when it is so

## Main results

* `exists_partsToLangchainContent_iff` — which parts are converted
* `conversion_total_iff` — which messages are converted
* `not_totalConversion`
-/

namespace OpenLangGraph

open Traversal

namespace A2A

/-! ### Types of the protocol -/

/-- `FileWithBytes` and `FileWithUri` -/
inductive File where
  | withBytes (bytes : String) (mimeType : Option String)
  | withUri (uri : String) (mimeType : Option String)

/-- `TextPart`, `FilePart` and `DataPart` -/
inductive Root where
  | text (text : String)
  | file (file : File)
  | data (data : List (String × Json))

/-- A part: of the protocol library, or a dictionary. -/
inductive AnyPart where
  | part (root : Root)
  | dict (entries : List (String × Json))

/-- `Role` -/
inductive Role where
  | agent
  | user

/-- A message: of the protocol library, or a dictionary. -/
inductive AnyMessage where
  | message (role : Role) (parts : List Root)
  | dict (role : Option Json) (parts : Option (List AnyPart))

/-! ### The conversion -/

/-- What the conversion raises. -/
inductive ConversionError where
  /-- `AttributeError`, with the name of the attribute -/
  | attributeError (name : String)
  /-- `TypeError` of `join`, with the place of the item -/
  | typeError (item : ℕ)

/-- `file.uri` -/
def File.uri : File → Except ConversionError String
  | .withBytes _ _ => .error (.attributeError "uri")
  | .withUri uri _ => .ok uri

/-- `file.mime_type` -/
def File.mimeType : File → Option String
  | .withBytes _ mimeType => mimeType
  | .withUri _ mimeType => mimeType

/-- A string, or `None`. -/
def optionalString (s : Option String) : Json := s.elim .null .str

/-- `d.get(key, default)` -/
def getOr (d : List (String × Json)) (key : String) (default : Json) : Json :=
  (d.lookup key).getD default

/-- `p.get("kind")`, compared with a string. -/
def hasKind (kind : String) (d : List (String × Json)) : Bool :=
  match d.lookup "kind" with
  | some (.str s) => s = kind
  | _ => false

/-- `_extract_part_info` -/
def extractPartInfo : AnyPart → Except ConversionError (List (String × Json))
  | .part (.text text) => .ok [("kind", .str "text"), ("text", .str text)]
  | .part (.file file) => do
    let uri ← file.uri
    .ok [("kind", .str "file"),
      ("file", .obj [("uri", .str uri), ("mimeType", optionalString file.mimeType)])]
  | .part (.data data) => .ok [("kind", .str "data"), ("data", .obj data)]
  | .dict entries => .ok entries

/-- Content of a message of LangChain. -/
inductive Content where
  | str (s : String)
  | blocks (blocks : List Json)

/-- `"".join(…)`, from the item with a number on. -/
def joinFrom (item : ℕ) : List Json → Except ConversionError String
  | [] => .ok ""
  | .str s :: rest => (s ++ ·) <$> joinFrom (item + 1) rest
  | _ :: _ => .error (.typeError item)

/-- `f"[File: {uri}]"`, where `str` prints what is no string. -/
def fileText (str : Json → String) (uri : Json) : String :=
  match uri with
  | .str s => "[File: " ++ s ++ "]"
  | uri => "[File: " ++ str uri ++ "]"

/-- One turn of the loop over the parts: a content block, or none. -/
def contentBlock (str : Json → String) (part : List (String × Json)) :
    Except ConversionError (Option Json) :=
  if hasKind "text" part then
    .ok (some (.obj [("type", .str "text"), ("text", getOr part "text" (.str ""))]))
  else if hasKind "file" part then
    match getOr part "file" (.obj []) with
    | .obj fileInfo =>
      let uri := getOr fileInfo "uri" (.str "")
      match getOr fileInfo "mimeType" (.str "") with
      | .str mimeType =>
        if mimeType.startsWith "image/" then
          .ok (some (.obj [("type", .str "image_url"), ("image_url", .obj [("url", uri)])]))
        else .ok (some (.obj [("type", .str "text"), ("text", .str (fileText str uri))]))
      | _ => .error (.attributeError "startswith")
    | _ => .error (.attributeError "get")
  else .ok none

/-- `parts_to_langchain_content` -/
def partsToLangchainContent (str : Json → String) (parts : List AnyPart) :
    Except ConversionError Content := do
  let normalizedParts ← parts.mapM extractPartInfo
  let textParts := normalizedParts.filter (hasKind "text")
  let fileParts := normalizedParts.filter (hasKind "file")
  if fileParts = [] then
    return .str (← joinFrom 0 (textParts.map fun p => getOr p "text" (.str "")))
  else
    return .blocks (← normalizedParts.mapM (contentBlock str)).reduceOption

/-- A message of LangChain, with what is under `a2a_data` of its `additional_kwargs`. -/
structure BaseMessage where
  isAi : Bool
  content : Content
  a2aData : Option Json

/-- `data_parts[0] if len(data_parts) == 1 else data_parts` -/
def a2aData : List Json → Option Json
  | [] => none
  | [data] => some data
  | dataParts => some (.arr dataParts)

/-- Whether the role is `"agent"`. -/
def AnyMessage.isAgent : AnyMessage → Bool
  | .message .agent _ => true
  | .dict (some (.str role)) _ => role = "agent"
  | _ => false

/-- The parts, if there are any. -/
def AnyMessage.parts : AnyMessage → List AnyPart
  | .message _ parts => parts.map .part
  | .dict _ parts => parts.getD []

/-- `a2a_to_langchain` -/
def a2aToLangchain (str : Json → String) (message : AnyMessage) :
    Except ConversionError BaseMessage := do
  let content ← partsToLangchainContent str message.parts
  let normalizedParts ← message.parts.mapM extractPartInfo
  let dataParts := (normalizedParts.filter (hasKind "data")).map fun p => getOr p "data" (.obj [])
  return ⟨message.isAgent, content, a2aData dataParts⟩

/-! ### What is asked -/

/-- Both conversions return a value. -/
def Converts (str : Json → String) (message : AnyMessage) : Prop :=
  (∃ content, partsToLangchainContent str message.parts = .ok content) ∧
    ∃ result, a2aToLangchain str message = .ok result

/-- Every message of the protocol library is converted. -/
def TotalConversion : Prop :=
  ∀ (str : Json → String) (role : Role) (parts : List Root), Converts str (.message role parts)

/-- The file has a URI and a media type. -/
def File.Addressed : File → Prop
  | .withUri _ (some _) => True
  | _ => False

def AnyPart.isFile : AnyPart → Bool
  | .part (.file _) => true
  | .part _ => false
  | .dict entries => hasKind "file" entries

/-- If the part is a file, its URI and its media type can be read. -/
def AnyPart.FileReadable : AnyPart → Prop
  | .part (.file file) => file.Addressed
  | .part _ => True
  | .dict entries => hasKind "file" entries = true →
    ∃ fileInfo, getOr entries "file" (.obj []) = .obj fileInfo ∧
      ∃ mimeType, getOr fileInfo "mimeType" (.str "") = .str mimeType

/-- If the part is a text, it can be joined to others. -/
def AnyPart.TextReadable : AnyPart → Prop
  | .part _ => True
  | .dict entries => hasKind "text" entries = true →
    ∃ s, getOr entries "text" (.str "") = .str s

/-- Every file can be read; and if there are none, the texts can be joined. -/
structure Convertible (parts : List AnyPart) : Prop where
  files : ∀ part ∈ parts, part.FileReadable
  texts : (∀ part ∈ parts, part.isFile = false) → ∀ part ∈ parts, part.TextReadable

/-! ### Part by part -/

variable {str : Json → String} {part : AnyPart} {entries : List (String × Json)}

theorem isFile_of_extract (h : extractPartInfo part = .ok entries) :
    hasKind "file" entries = part.isFile := by
  rcases part with (text | file | data) | entries'
  · obtain rfl := Except.ok.inj h
    rfl
  · rcases file with ⟨bytes, mimeType⟩ | ⟨uri, mimeType⟩
    · cases h
    · obtain rfl := Except.ok.inj h
      rfl
  · obtain rfl := Except.ok.inj h
    rfl
  · obtain rfl := Except.ok.inj h
    rfl

/-- A part has one kind. -/
theorem not_hasKind_of_hasKind {kind kind' : String} (hne : kind ≠ kind')
    (h : hasKind kind entries = true) : hasKind kind' entries = false := by
  unfold hasKind at h ⊢
  split at h
  · rename_i s hs
    obtain rfl := of_decide_eq_true h
    exact decide_eq_false hne
  · cases h

/-- A dictionary makes a block if it is no file, or one that can be read. -/
theorem exists_contentBlock_dict_iff :
    (∃ block, contentBlock str entries = .ok block) ↔ (AnyPart.dict entries).FileReadable := by
  rw [AnyPart.FileReadable, contentBlock]
  by_cases htext : hasKind "text" entries = true
  · have hfile : hasKind "file" entries = false := not_hasKind_of_hasKind (by decide) htext
    rw [if_pos htext, hfile]
    exact iff_of_true ⟨_, rfl⟩ fun h => absurd h Bool.false_ne_true
  · rw [if_neg htext]
    by_cases hfile : hasKind "file" entries = true
    · rw [if_pos hfile, imp_iff_right hfile]
      cases hinfo : getOr entries "file" (.obj []) with
      | obj fileInfo =>
        dsimp only
        cases hmime : getOr fileInfo "mimeType" (.str "") with
        | str mimeType =>
          refine iff_of_true ?_ ⟨fileInfo, rfl, mimeType, hmime⟩
          dsimp only
          split
          · exact ⟨_, rfl⟩
          · exact ⟨_, rfl⟩
        | _ =>
          refine iff_of_false ?_ ?_
          · rintro ⟨block, h⟩
            cases h
          · rintro ⟨fileInfo', heq, mimeType, h⟩
            obtain rfl := Json.obj.inj heq
            rw [hmime] at h
            cases h
      | _ =>
        refine iff_of_false ?_ ?_
        · rintro ⟨block, h⟩
          cases h
        · rintro ⟨fileInfo', heq, -⟩
          cases heq
    · rw [if_neg hfile]
      exact iff_of_true ⟨_, rfl⟩ fun h => absurd h hfile

/-- A part that has been normalized makes a block if its file can be read. -/
theorem exists_contentBlock_iff (h : extractPartInfo part = .ok entries) :
    (∃ block, contentBlock str entries = .ok block) ↔ part.FileReadable := by
  rw [exists_contentBlock_dict_iff]
  rcases part with (text | file | data) | entries'
  · obtain rfl := Except.ok.inj h
    refine iff_of_true (fun hkind => ?_) trivial
    cases hkind
  · rcases file with ⟨bytes, mimeType⟩ | ⟨uri, _ | mimeType⟩
    · cases h
    · obtain rfl := Except.ok.inj h
      refine iff_of_false (fun hread => ?_) id
      obtain ⟨fileInfo, hinfo, mimeType, hmime⟩ := hread rfl
      obtain rfl := Json.obj.inj hinfo
      cases hmime
    · obtain rfl := Except.ok.inj h
      exact iff_of_true (fun _ => ⟨_, rfl, mimeType, rfl⟩) trivial
  · obtain rfl := Except.ok.inj h
    refine iff_of_true (fun hkind => ?_) trivial
    cases hkind
  · obtain rfl := Except.ok.inj h
    exact Iff.rfl

theorem textReadable_iff (h : extractPartInfo part = .ok entries) :
    part.TextReadable ↔
      (hasKind "text" entries = true → ∃ s, getOr entries "text" (.str "") = .str s) := by
  rcases part with (text | file | data) | entries'
  · obtain rfl := Except.ok.inj h
    exact iff_of_true trivial fun _ => ⟨text, rfl⟩
  · rcases file with ⟨bytes, mimeType⟩ | ⟨uri, mimeType⟩
    · cases h
    · obtain rfl := Except.ok.inj h
      refine iff_of_true trivial fun hkind => ?_
      cases hkind
  · obtain rfl := Except.ok.inj h
    refine iff_of_true trivial fun hkind => ?_
    cases hkind
  · obtain rfl := Except.ok.inj h
    exact Iff.rfl

theorem fileReadable_of_not_isFile (h : part.isFile = false) : part.FileReadable := by
  rcases part with (text | file | data) | entries'
  · trivial
  · cases h
  · trivial
  · intro hkind
    exact absurd (hkind.symm.trans h) (by decide)

theorem exists_extract (h : part.FileReadable) : ∃ entries, extractPartInfo part = .ok entries := by
  rcases part with (text | file | data) | entries'
  · exact ⟨_, rfl⟩
  · rcases file with ⟨bytes, mimeType⟩ | ⟨uri, mimeType⟩
    · cases h
    · exact ⟨_, rfl⟩
  · exact ⟨_, rfl⟩
  · exact ⟨_, rfl⟩

theorem exists_joinFrom_iff {item : ℕ} {texts : List Json} :
    (∃ s, joinFrom item texts = .ok s) ↔ ∀ text ∈ texts, ∃ s, text = .str s := by
  induction texts generalizing item with
  | nil => exact iff_of_true ⟨"", rfl⟩ fun text h => absurd h List.not_mem_nil
  | cons text texts ih =>
    rw [List.forall_mem_cons]
    cases text with
    | str s =>
      rw [← @ih (item + 1), joinFrom, and_iff_right ⟨s, rfl⟩]
      cases joinFrom (item + 1) texts with
      | error e =>
        refine iff_of_false ?_ ?_
        · rintro ⟨s, h⟩
          cases h
        · rintro ⟨s, h⟩
          cases h
      | ok rest => exact iff_of_true ⟨_, rfl⟩ ⟨_, rfl⟩
    | _ =>
      refine iff_of_false ?_ ?_
      · rintro ⟨s, h⟩
        cases h
      · rintro ⟨⟨s, h⟩, -⟩
        cases h

/-! ### Messages -/

variable {parts : List AnyPart}

theorem exists_map_ok_iff {α β ε : Type} {x : Except ε α} {f : α → β} :
    (∃ b, (do let a ← x; pure (f a)) = Except.ok b) ↔ ∃ a, x = .ok a := by
  cases x with
  | error e =>
    refine iff_of_false ?_ ?_
    · rintro ⟨b, h⟩
      cases h
    · rintro ⟨a, h⟩
      cases h
  | ok a => exact iff_of_true ⟨f a, rfl⟩ ⟨a, rfl⟩

/-- **Which parts are converted.** -/
theorem exists_partsToLangchainContent_iff :
    (∃ content, partsToLangchainContent str parts = .ok content) ↔ Convertible parts := by
  cases hall : parts.mapM extractPartInfo with
  | error e =>
    refine iff_of_false ?_ ?_
    · rintro ⟨content, h⟩
      rw [partsToLangchainContent, hall] at h
      cases h
    · intro h
      obtain ⟨normalized, hnormalized⟩ :=
        exists_mapM_eq_ok_iff.mpr fun part hpart => exists_extract (h.files part hpart)
      rw [hall] at hnormalized
      cases hnormalized
  | ok normalized =>
    have hparts := mapM_eq_ok_iff.mp hall
    have hblocks : (∃ blocks, normalized.mapM (contentBlock str) = .ok blocks) ↔
        ∀ part ∈ parts, part.FileReadable := by
      rw [exists_mapM_eq_ok_iff]
      exact (forall_mem_iff_of_forall₂ hparts fun _ _ h => (exists_contentBlock_iff h).symm).symm
    have htexts : (∃ s, joinFrom 0 ((normalized.filter (hasKind "text")).map
        fun p => getOr p "text" (.str "")) = .ok s) ↔ ∀ part ∈ parts, part.TextReadable := by
      rw [exists_joinFrom_iff, List.forall_mem_map, forall_mem_iff_of_forall₂ hparts
        fun _ _ h => textReadable_iff h]
      constructor
      · intro h entries hentries hkind
        exact h entries (List.mem_filter.mpr ⟨hentries, hkind⟩)
      · intro h entries hentries
        obtain ⟨hmem, hkind⟩ := List.mem_filter.mp hentries
        exact h entries hmem hkind
    have hfiles : normalized.filter (hasKind "file") = [] ↔
        ∀ part ∈ parts, part.isFile = false := by
      rw [List.filter_eq_nil_iff, forall_mem_iff_of_forall₂ hparts
        fun _ _ h => by rw [← isFile_of_extract h, ← Bool.not_eq_true]]
    rw [partsToLangchainContent, hall]
    show (∃ content, (if normalized.filter (hasKind "file") = [] then _ else _) = _) ↔ _
    by_cases hno : normalized.filter (hasKind "file") = []
    · -- texts alone
      have hread : ∀ part ∈ parts, part.FileReadable := fun part hpart =>
        fileReadable_of_not_isFile (hfiles.mp hno part hpart)
      rw [if_pos hno, exists_map_ok_iff, htexts]
      exact ⟨fun h => ⟨hread, fun _ => h⟩, fun h => h.texts (hfiles.mp hno)⟩
    · rw [if_neg hno, exists_map_ok_iff, hblocks]
      exact ⟨fun h => ⟨h, fun hnone => absurd (hfiles.mpr hnone) hno⟩, fun h => h.files⟩

/-- **Which messages are converted.** -/
theorem converts_iff (str : Json → String) (message : AnyMessage) :
    Converts str message ↔ Convertible message.parts := by
  rw [Converts, exists_partsToLangchainContent_iff, and_iff_left_iff_imp]
  intro h
  obtain ⟨content, hcontent⟩ := (@exists_partsToLangchainContent_iff str _).mpr h
  obtain ⟨normalized, hnormalized⟩ : ∃ normalized,
      message.parts.mapM extractPartInfo = .ok normalized :=
    exists_mapM_eq_ok_iff.mpr fun part hpart => exists_extract (h.files part hpart)
  rw [a2aToLangchain, hcontent, hnormalized]
  exact ⟨_, rfl⟩

/-- In a message of the protocol library these are the files with a URI and a media type. -/
theorem convertible_message_iff (role : Role) (roots : List Root) :
    Convertible (AnyMessage.message role roots).parts ↔
      ∀ file, Root.file file ∈ roots → ∃ uri mimeType, file = .withUri uri (some mimeType) := by
  constructor
  · intro h file hfile
    have hread := h.files _ (List.mem_map_of_mem hfile)
    rcases file with ⟨bytes, mimeType⟩ | ⟨uri, _ | mimeType⟩
    · cases hread
    · cases hread
    · exact ⟨uri, mimeType, rfl⟩
  · intro h
    refine ⟨List.forall_mem_map.mpr fun root hroot => ?_,
      fun _ => List.forall_mem_map.mpr fun root _ => trivial⟩
    cases root with
    | text text => trivial
    | data data => trivial
    | file file =>
      obtain ⟨uri, mimeType, rfl⟩ := h file hroot
      trivial

/-- **Conversion is total** but for files without a URI or without a media type: for every message,
dictionaries included, and for those of the protocol library. -/
theorem conversion_total_iff (str : Json → String) :
    (∀ message, Converts str message ↔ Convertible message.parts) ∧
      ∀ (role : Role) (roots : List Root), Converts str (.message role roots) ↔
        ∀ file, Root.file file ∈ roots → ∃ uri mimeType, file = .withUri uri (some mimeType) :=
  ⟨converts_iff str, fun role roots =>
    (converts_iff str _).trans (convertible_message_iff role roots)⟩

/-- A file that is sent as bytes is not converted. -/
theorem not_totalConversion : ¬ TotalConversion := by
  intro h
  obtain ⟨content, hcontent⟩ := (h (fun _ => "") .user [.file (.withBytes "aGk=" none)]).1
  cases hcontent

end A2A

end OpenLangGraph
