import Mathlib.Data.List.ReduceOption
import OpenLangGraph.A2A.Converter

/-!
# Messages there and back

`langchain_to_a2a` of `a2a/converter.py`, and what is left of a message of the A2A protocol that is
converted to LangChain and back.

## Data parts

A message of LangChain has one place for data. Several data parts are kept there as a list, and on
the way back the list becomes a single data part. An empty dictionary is kept, too, but is not true,
and then no data part is written. Everything else survives.

## Main definitions

* `partOfBlock`, `langchainToA2a` — the way back
* `SaysTheSame`, `SurvivesRoundTrip` — what is asked

## Main results

* `survivesRoundTrip_iff` — which messages survive
* `two_data_parts` — one that does not
-/

namespace OpenLangGraph

open Traversal

namespace A2A

/-! ### The way back -/

/-- `block.get(key, default)`; what is no dictionary has no `get`. -/
def dictGet (block : Json) (key : String) (default : Json) : Except ConversionError Json :=
  match block with
  | .obj entries => .ok (getOr entries key default)
  | _ => .error (.attributeError "get")

/-- A value is this string. -/
def isStr (s : String) (value : Json) : Bool :=
  match value with
  | .str t => t = s
  | _ => false

/-- `f"[Unsupported content: {block_type}]"` -/
def unsupportedText (str : Json → String) (blockType : Json) : String :=
  match blockType with
  | .str s => "[Unsupported content: " ++ s ++ "]"
  | blockType => "[Unsupported content: " ++ str blockType ++ "]"

/-- One turn of the loop over the content blocks. -/
def partOfBlock (str : Json → String) (block : Json) :
    Except ConversionError (List (String × Json)) := do
  let blockType ← dictGet block "type" (.str "")
  if isStr "text" blockType then
    return [("kind", .str "text"), ("text", ← dictGet block "text" (.str ""))]
  else if isStr "image_url" blockType then
    let uri ← dictGet (← dictGet block "image_url" (.obj [])) "url" (.str "")
    return [("kind", .str "file"), ("file", .obj [("uri", uri), ("mimeType", .str "image/png")])]
  else
    return [("kind", .str "text"), ("text", .str (unsupportedText str blockType))]

/-- The dictionary that `langchain_to_a2a` returns. -/
structure A2ADict where
  messageId : String
  role : String
  parts : List (List (String × Json))

/-- The parts of a content. -/
def partsOfContent (str : Json → String) :
    Content → Except ConversionError (List (List (String × Json)))
  | .str s => .ok [[("kind", .str "text"), ("text", .str s)]]
  | .blocks blocks => blocks.mapM (partOfBlock str)

/-- The data part, if there is data. -/
def dataPart (a2aData : Option Json) : List (List (String × Json)) :=
  ((a2aData.filter Json.truthy).map fun data => [("kind", .str "data"), ("data", data)]).toList

/-- `langchain_to_a2a`, for a message with this id; `uuid` is a new one. -/
def langchainToA2a (str : Json → String) (id : Option String) (uuid : String)
    (message : BaseMessage) : Except ConversionError A2ADict := do
  let parts ← partsOfContent str message.content
  return { messageId := (id.filter (· ≠ "")).getD uuid
           role := if message.isAi then "agent" else "user"
           parts := parts ++ dataPart message.a2aData }

/-- The dictionary as a message. -/
def A2ADict.message (dict : A2ADict) : AnyMessage :=
  .dict (some (.str dict.role)) (some (dict.parts.map .dict))

/-! ### What is asked -/

/-- The role that is written. -/
def AnyMessage.role : AnyMessage → Option Json
  | .message .agent _ => some (.str "agent")
  | .message .user _ => some (.str "user")
  | .dict role _ => role

/-- The text of a text part. -/
def AnyPart.text : AnyPart → String
  | .part (.text text) => text
  | .part _ => ""
  | .dict entries =>
    if hasKind "text" entries then ((getOr entries "text" (.str "")).asStr).getD "" else ""

/-- The media type is that of an image. -/
def isImage (mimeType : Option String) : Bool := mimeType.any (·.startsWith "image/")

/-- The URI of an image. -/
def AnyPart.imageUri : AnyPart → Option String
  | .part (.file (.withUri uri mimeType)) => if isImage mimeType then some uri else none
  | .part _ => none
  | .dict entries =>
    if hasKind "file" entries then
      match getOr entries "file" (.obj []) with
      | .obj fileInfo =>
        if isImage (getOr fileInfo "mimeType" (.str "")).asStr then
          (getOr fileInfo "uri" (.str "")).asStr
        else none
      | _ => none
    else none

/-- The data of a data part. -/
def AnyPart.data : AnyPart → Option Json
  | .part (.data data) => some (.obj data)
  | .part _ => none
  | .dict entries => if hasKind "data" entries then some (getOr entries "data" (.obj [])) else none

/-- Role, text, images and data are the same. -/
structure SaysTheSame (m m' : AnyMessage) : Prop where
  role : m'.role = m.role
  text : String.join (m'.parts.map AnyPart.text) = String.join (m.parts.map AnyPart.text)
  images : m'.parts.filterMap AnyPart.imageUri = m.parts.filterMap AnyPart.imageUri
  data : m'.parts.filterMap AnyPart.data = m.parts.filterMap AnyPart.data

/-- A message is converted to LangChain and back, says the same then, and is converted to the same
message of LangChain again. -/
def SurvivesRoundTrip (str : Json → String) (id : Option String) (uuid : String)
    (m : AnyMessage) : Prop :=
  ∃ message back, a2aToLangchain str m = .ok message ∧
    langchainToA2a str id uuid message = .ok back ∧
      SaysTheSame m back.message ∧ a2aToLangchain str back.message = .ok message

/-- A text, an image that is given by its URI, or data. -/
def Root.Simple : Root → Prop
  | .text _ | .data _ => True
  | .file (.withUri _ mimeType) => isImage mimeType = true
  | .file (.withBytes _ _) => False

/-- The data of the data parts. -/
def dataOf (roots : List Root) : List (List (String × Json)) :=
  roots.filterMap fun
    | .data data => some data
    | _ => none

/-! ### Parts as dictionaries -/

/-- What is normalized of a part; a file that is sent as bytes is none of these. -/
def entriesOf : Root → List (String × Json)
  | .text text => [("kind", .str "text"), ("text", .str text)]
  | .file (.withUri uri mimeType) =>
    [("kind", .str "file"),
      ("file", .obj [("uri", .str uri), ("mimeType", optionalString mimeType)])]
  | .file (.withBytes _ _) => []
  | .data data => [("kind", .str "data"), ("data", .obj data)]

def Role.isAgent : Role → Bool
  | .agent => true
  | .user => false

def Root.isFile : Root → Bool
  | .file _ => true
  | _ => false

def textOf : Root → Option String
  | .text text => some text
  | _ => none

/-- The content block of a part. -/
def blockOf : Root → Option Json
  | .text text => some (.obj [("type", .str "text"), ("text", .str text)])
  | .file (.withUri uri _) =>
    some (.obj [("type", .str "image_url"), ("image_url", .obj [("url", .str uri)])])
  | _ => none

/-- The part that comes back for a part in a message with files. -/
def sentBack : Root → Option Root
  | .text text => some (.text text)
  | .file (.withUri uri _) => some (.file (.withUri uri (some "image/png")))
  | _ => none

/-- The content of the message of LangChain. -/
def contentOf (roots : List Root) : Content :=
  if roots.any Root.isFile then .blocks (roots.filterMap blockOf)
  else .str (String.join (roots.filterMap textOf))

/-- The parts that come back, without the data. -/
def rootsBack (roots : List Root) : List Root :=
  if roots.any Root.isFile then roots.filterMap sentBack
  else [.text (String.join (roots.filterMap textOf))]

variable {str : Json → String} {root : Root} {roots : List Root}

theorem isImage_png : isImage (some "image/png") = true := by
  rw [isImage, Option.any_some, String.startsWith_string_iff]
  exact ⟨"png".toList, by decide⟩

theorem isImage_iff {mimeType : Option String} : isImage mimeType = true ↔
    ∃ s, mimeType = some s ∧ s.startsWith "image/" = true := by
  cases mimeType with
  | none => exact iff_of_false Bool.false_ne_true (fun ⟨s, hs, _⟩ => Option.some_ne_none s hs.symm)
  | some s => exact ⟨fun h => ⟨s, rfl, h⟩, fun ⟨t, ht, h⟩ => Option.some.inj ht ▸ h⟩

theorem extract_simple (h : root.Simple) : extractPartInfo (.part root) = .ok (entriesOf root) := by
  rcases root with text | (⟨bytes, mimeType⟩ | ⟨uri, mimeType⟩) | data
  · rfl
  · exact False.elim h
  · rfl
  · rfl

theorem contentBlock_simple (h : root.Simple) :
    contentBlock str (entriesOf root) = .ok (blockOf root) := by
  rcases root with text | (⟨bytes, mimeType⟩ | ⟨uri, mimeType⟩) | data
  · rfl
  · exact False.elim h
  · obtain ⟨s, rfl, hs⟩ := isImage_iff.mp h
    show (if s.startsWith "image/" then _ else _) = _
    rw [if_pos hs]
    rfl
  · rfl

theorem simple_of_sentBack {root' : Root} (h : sentBack root = some root') : root'.Simple := by
  rcases root with text | (⟨bytes, mimeType⟩ | ⟨uri, mimeType⟩) | data
  · obtain rfl := Option.some.inj h
    trivial
  · cases h
  · obtain rfl := Option.some.inj h
    exact isImage_png
  · cases h

theorem simple_of_mem_rootsBack (h : root ∈ rootsBack roots) : root.Simple := by
  rw [rootsBack] at h
  split at h
  · obtain ⟨root₀, -, hsent⟩ := List.mem_filterMap.mp h
    exact simple_of_sentBack hsent
  · obtain rfl := List.mem_singleton.mp h
    trivial

/-! ### Converting -/

theorem joinFrom_str (item : ℕ) (texts : List String) :
    joinFrom item (texts.map .str) = .ok (String.join texts) := by
  induction texts generalizing item with
  | nil =>
    rw [String.join_nil]
    rfl
  | cons text texts ih =>
    rw [List.map_cons, joinFrom, ih, String.join_cons]
    rfl

/-- The texts are those of the text parts. -/
theorem map_text_entriesOf (roots : List Root) (extra : Option Json) :
    ((roots.map entriesOf ++ dataPart extra).filter (hasKind "text")).map
      (fun p => getOr p "text" (.str "")) = (roots.filterMap textOf).map .str := by
  induction roots with
  | nil =>
    rw [List.map_nil, List.nil_append, dataPart]
    cases extra.filter Json.truthy with
    | none => rfl
    | some data => rfl
  | cons root roots ih =>
    rcases root with text | (⟨bytes, mimeType⟩ | ⟨uri, mimeType⟩) | data
    · exact congrArg (Json.str text :: ·) ih
    · exact ih
    · exact ih
    · exact ih

theorem map_data_entriesOf (roots : List Root) (extra : Option Json) :
    ((roots.map entriesOf ++ dataPart extra).filter (hasKind "data")).map
        (fun p => getOr p "data" (.obj [])) =
      (dataOf roots).map .obj ++ (extra.filter Json.truthy).toList := by
  induction roots with
  | nil =>
    rw [List.map_nil, List.nil_append, dataPart]
    cases extra.filter Json.truthy with
    | none => rfl
    | some data => rfl
  | cons root roots ih =>
    rcases root with text | (⟨bytes, mimeType⟩ | ⟨uri, mimeType⟩) | data
    · exact ih
    · exact ih
    · exact ih
    · exact congrArg (Json.obj data :: ·) ih

theorem hasKind_file_entriesOf (h : root.Simple) :
    hasKind "file" (entriesOf root) = root.isFile := by
  rcases root with text | (⟨bytes, mimeType⟩ | ⟨uri, mimeType⟩) | data
  · rfl
  · exact False.elim h
  · rfl
  · rfl

theorem filter_file_eq_nil_iff (hsimple : ∀ root ∈ roots, root.Simple) (extra : Option Json) :
    (roots.map entriesOf ++ dataPart extra).filter (hasKind "file") = [] ↔
      roots.any Root.isFile = false := by
  have hextra : (dataPart extra).filter (hasKind "file") = [] := by
    rw [dataPart]
    cases extra.filter Json.truthy with
    | none => rfl
    | some data => rfl
  rw [List.filter_append, hextra, List.append_nil, List.filter_eq_nil_iff, List.any_eq_false]
  constructor
  · intro h root hroot
    rw [← hasKind_file_entriesOf (hsimple root hroot)]
    exact h _ (List.mem_map_of_mem hroot)
  · intro h entries hentries
    obtain ⟨root, hroot, rfl⟩ := List.mem_map.mp hentries
    rw [hasKind_file_entriesOf (hsimple root hroot)]
    exact h root hroot

/-- The blocks are those of the parts; a data part has none. -/
theorem mapM_contentBlock (hsimple : ∀ root ∈ roots, root.Simple) (extra : Option Json) :
    (List.reduceOption <$> (roots.map entriesOf ++ dataPart extra).mapM (contentBlock str)) =
      .ok (roots.filterMap blockOf) := by
  induction roots with
  | nil =>
    rw [List.map_nil, List.nil_append, dataPart]
    cases extra.filter Json.truthy with
    | none => rfl
    | some data => rfl
  | cons root roots ih =>
    obtain ⟨hroot, hroots⟩ := List.forall_mem_cons.mp hsimple
    have hrest := ih hroots
    rw [List.map_cons, List.cons_append, List.mapM_cons, contentBlock_simple hroot,
      List.filterMap_cons]
    cases hblocks : (roots.map entriesOf ++ dataPart extra).mapM (contentBlock str) with
    | error e =>
      rw [hblocks] at hrest
      cases hrest
    | ok blocks =>
      rw [hblocks] at hrest
      have hreduced : blocks.reduceOption = roots.filterMap blockOf := Except.ok.inj hrest
      show Except.ok ((blockOf root :: blocks).reduceOption) = _
      cases blockOf root with
      | none => rw [List.reduceOption_cons_of_none, hreduced]
      | some block => rw [List.reduceOption_cons_of_some, hreduced]

/-- **A message is converted** by way of its normalized parts. -/
theorem a2aToLangchain_eq {m : AnyMessage} {extra : Option Json}
    (hsimple : ∀ root ∈ roots, root.Simple)
    (h : m.parts.mapM extractPartInfo = .ok (roots.map entriesOf ++ dataPart extra)) :
    a2aToLangchain str m = .ok ⟨m.isAgent, contentOf roots,
      a2aData ((dataOf roots).map .obj ++ (extra.filter Json.truthy).toList)⟩ := by
  have hcontent : partsToLangchainContent str m.parts = .ok (contentOf roots) := by
    rw [partsToLangchainContent, h, contentOf]
    show (if _ = [] then _ else _ : Except ConversionError Content) = _
    by_cases hfile : roots.any Root.isFile = true
    · have hne : ¬ (roots.map entriesOf ++ dataPart extra).filter (hasKind "file") = [] := by
        rw [filter_file_eq_nil_iff hsimple, hfile]
        exact Bool.true_eq_false.mp
      have hblocks := @mapM_contentBlock str roots hsimple extra
      rw [if_neg hne, if_pos hfile]
      cases hmap : (roots.map entriesOf ++ dataPart extra).mapM (contentBlock str) with
      | error e =>
        rw [hmap] at hblocks
        cases hblocks
      | ok blocks =>
        rw [hmap] at hblocks
        show Except.ok (Content.blocks blocks.reduceOption) = _
        rw [Except.ok.inj hblocks]
    · rw [if_pos ((filter_file_eq_nil_iff hsimple extra).mpr (Bool.eq_false_iff.mpr hfile)),
        if_neg hfile, map_text_entriesOf, joinFrom_str]
      rfl
  rw [a2aToLangchain, hcontent, h]
  show Except.ok (BaseMessage.mk _ _ (a2aData _)) = _
  rw [map_data_entriesOf]

theorem mapM_partOfBlock (roots : List Root) :
    (roots.filterMap blockOf).mapM (partOfBlock str) =
      .ok ((roots.filterMap sentBack).map entriesOf) := by
  induction roots with
  | nil => rfl
  | cons root roots ih =>
    rcases root with text | (⟨bytes, mimeType⟩ | ⟨uri, mimeType⟩) | data
    · rw [List.filterMap_cons, List.filterMap_cons, blockOf, sentBack]
      dsimp only
      rw [List.mapM_cons, ih]
      rfl
    · exact ih
    · rw [List.filterMap_cons, List.filterMap_cons, blockOf, sentBack]
      dsimp only
      rw [List.mapM_cons, ih]
      rfl
    · exact ih

/-- The content is written as the parts that come back. -/
theorem partsOfContent_contentOf (roots : List Root) :
    partsOfContent str (contentOf roots) = .ok ((rootsBack roots).map entriesOf) := by
  rw [contentOf, rootsBack]
  split
  · exact mapM_partOfBlock roots
  · rfl

/-! ### What comes back -/

theorem any_isFile_sentBack (hsimple : ∀ root ∈ roots, root.Simple) :
    (roots.filterMap sentBack).any Root.isFile = roots.any Root.isFile := by
  induction roots with
  | nil => rfl
  | cons root roots ih =>
    obtain ⟨hroot, hroots⟩ := List.forall_mem_cons.mp hsimple
    have hrest := ih hroots
    rcases root with text | (⟨bytes, mimeType⟩ | ⟨uri, mimeType⟩) | data
    · exact hrest
    · exact False.elim hroot
    · rfl
    · exact hrest

/-- Files come back as files. -/
theorem any_isFile_rootsBack (hsimple : ∀ root ∈ roots, root.Simple) :
    (rootsBack roots).any Root.isFile = roots.any Root.isFile := by
  rw [rootsBack]
  split
  · exact any_isFile_sentBack hsimple
  · rename_i hfile
    exact (Bool.eq_false_iff.mpr hfile).symm

theorem filterMap_sentBack {α : Type} {f : Root → Option α}
    (h : ∀ root, (sentBack root).bind f = f root) :
    (roots.filterMap sentBack).filterMap f = roots.filterMap f := by
  rw [List.filterMap_filterMap]
  exact List.filterMap_congr fun root _ => h root

theorem join_texts_rootsBack (roots : List Root) :
    String.join ((rootsBack roots).filterMap textOf) = String.join (roots.filterMap textOf) := by
  rw [rootsBack]
  split
  · rw [filterMap_sentBack]
    rintro (text | (⟨bytes, mimeType⟩ | ⟨uri, mimeType⟩) | data)
    · rfl
    · rfl
    · rfl
    · rfl
  · show String.join [_] = _
    rw [String.join_cons, String.join_nil, String.append_empty]

theorem dataOf_rootsBack (roots : List Root) : dataOf (rootsBack roots) = [] := by
  rw [rootsBack, dataOf]
  split
  · rw [List.filterMap_filterMap, List.filterMap_eq_nil_iff]
    rintro (text | (⟨bytes, mimeType⟩ | ⟨uri, mimeType⟩) | data) -
    · rfl
    · rfl
    · rfl
    · rfl
  · rfl

/-- **The same content** is made of what comes back. -/
theorem contentOf_rootsBack (hsimple : ∀ root ∈ roots, root.Simple) :
    contentOf (rootsBack roots) = contentOf roots := by
  rw [contentOf, any_isFile_rootsBack hsimple, join_texts_rootsBack, contentOf]
  by_cases hfile : roots.any Root.isFile = true
  · rw [if_pos hfile, if_pos hfile, rootsBack, if_pos hfile, filterMap_sentBack]
    rintro (text | (⟨bytes, mimeType⟩ | ⟨uri, mimeType⟩) | data)
    · rfl
    · rfl
    · rfl
    · rfl
  · rw [if_neg hfile, if_neg hfile]

theorem text_entriesOf (root : Root) :
    (AnyPart.dict (entriesOf root)).text = (AnyPart.part root).text := by
  rcases root with text | (⟨bytes, mimeType⟩ | ⟨uri, mimeType⟩) | data
  · rfl
  · rfl
  · rfl
  · rfl

theorem imageUri_entriesOf (root : Root) :
    (AnyPart.dict (entriesOf root)).imageUri = (AnyPart.part root).imageUri := by
  rcases root with text | (⟨bytes, mimeType⟩ | ⟨uri, _ | mimeType⟩) | data
  · rfl
  · rfl
  · rfl
  · rfl
  · rfl

theorem data_entriesOf (root : Root) :
    (AnyPart.dict (entriesOf root)).data = (AnyPart.part root).data := by
  rcases root with text | (⟨bytes, mimeType⟩ | ⟨uri, mimeType⟩) | data
  · rfl
  · rfl
  · rfl
  · rfl

/-- The dictionary that comes back, with the data of the message. -/
def dictBack (id : Option String) (uuid : String) (isAgent : Bool) (roots : List Root)
    (data : Option Json) : A2ADict where
  messageId := (id.filter (· ≠ "")).getD uuid
  role := if isAgent then "agent" else "user"
  parts := (rootsBack roots).map entriesOf ++ dataPart data

variable {id : Option String} {uuid : String} {isAgent : Bool} {data : Option Json}

theorem join_text_part (roots : List Root) :
    String.join (roots.map fun root => (AnyPart.part root).text) =
      String.join (roots.filterMap textOf) := by
  induction roots with
  | nil => rfl
  | cons root roots ih =>
    rw [List.map_cons, String.join_cons, ih]
    rcases root with text | (⟨bytes, mimeType⟩ | ⟨uri, mimeType⟩) | data
    · rw [List.filterMap_cons, textOf]
      exact String.join_cons.symm
    · exact String.empty_append
    · exact String.empty_append
    · exact String.empty_append

theorem text_dictBack :
    String.join ((dictBack id uuid isAgent roots data).message.parts.map AnyPart.text) =
      String.join (roots.map fun root => (AnyPart.part root).text) := by
  have hextra : String.join ((dataPart data).map fun entries => (AnyPart.dict entries).text) =
      "" := by
    rw [dataPart]
    cases data.filter Json.truthy with
    | none => rfl
    | some data => rfl
  show String.join ((((rootsBack roots).map entriesOf ++ dataPart data).map AnyPart.dict).map
    AnyPart.text) = _
  rw [List.map_map, List.map_append, List.map_map, String.join_append]
  show String.join ((rootsBack roots).map fun root => (AnyPart.dict (entriesOf root)).text) ++
    String.join ((dataPart data).map fun entries => (AnyPart.dict entries).text) = _
  rw [hextra, String.append_empty, List.map_congr_left fun root _ => text_entriesOf root,
    join_text_part, join_text_part, join_texts_rootsBack]

theorem images_dictBack (hsimple : ∀ root ∈ roots, root.Simple) :
    (dictBack id uuid isAgent roots data).message.parts.filterMap AnyPart.imageUri =
      roots.filterMap fun root => (AnyPart.part root).imageUri := by
  have hextra : (dataPart data).filterMap (fun entries => (AnyPart.dict entries).imageUri) =
      [] := by
    rw [dataPart]
    cases data.filter Json.truthy with
    | none => rfl
    | some data => rfl
  show (((rootsBack roots).map entriesOf ++ dataPart data).map AnyPart.dict).filterMap
    AnyPart.imageUri = _
  rw [List.filterMap_map, List.filterMap_append, List.filterMap_map]
  show (rootsBack roots).filterMap (fun root => (AnyPart.dict (entriesOf root)).imageUri) ++
    (dataPart data).filterMap (fun entries => (AnyPart.dict entries).imageUri) = _
  rw [hextra, List.append_nil, List.filterMap_congr fun root _ => imageUri_entriesOf root,
    rootsBack]
  split
  · rw [List.filterMap_filterMap]
    refine List.filterMap_congr fun root hroot => ?_
    have h := hsimple root hroot
    rcases root with text | (⟨bytes, mimeType⟩ | ⟨uri, mimeType⟩) | data
    · rfl
    · exact False.elim h
    · show (if isImage (some "image/png") then some uri else none) =
        if isImage mimeType then some uri else none
      rw [isImage_png, show isImage mimeType = true from h]
    · rfl
  · rename_i hfile
    symm
    refine List.filterMap_eq_nil_iff.mpr fun root hroot => ?_
    have hnot := List.any_eq_false.mp (Bool.eq_false_iff.mpr hfile) root hroot
    rcases root with text | file | data
    · rfl
    · exact absurd rfl hnot
    · rfl

theorem data_dictBack :
    (dictBack id uuid isAgent roots data).message.parts.filterMap AnyPart.data =
      (data.filter Json.truthy).toList := by
  have hroots : (rootsBack roots).filterMap (fun root => (AnyPart.part root).data) = [] := by
    have h := congrArg (List.map Json.obj) (dataOf_rootsBack roots)
    rw [dataOf, List.map_filterMap] at h
    rw [← h.trans List.map_nil]
    refine List.filterMap_congr fun root _ => ?_
    rcases root with text | (⟨bytes, mimeType⟩ | ⟨uri, mimeType⟩) | data
    · rfl
    · rfl
    · rfl
    · rfl
  show (((rootsBack roots).map entriesOf ++ dataPart data).map AnyPart.dict).filterMap
    AnyPart.data = _
  rw [List.filterMap_map, List.filterMap_append, List.filterMap_map]
  show (rootsBack roots).filterMap (fun root => (AnyPart.dict (entriesOf root)).data) ++
    (dataPart data).filterMap (fun entries => (AnyPart.dict entries).data) = _
  rw [List.filterMap_congr fun root _ => data_entriesOf root, hroots, List.nil_append, dataPart]
  cases data.filter Json.truthy with
  | none => rfl
  | some data => rfl

/-! ### The round trip -/

theorem mapM_extract_parts (hsimple : ∀ root ∈ roots, root.Simple) :
    (roots.map AnyPart.part).mapM extractPartInfo = .ok (roots.map entriesOf) := by
  rw [mapM_eq_ok_iff, List.forall₂_map_left_iff, List.forall₂_map_right_iff, List.forall₂_same]
  exact fun root hroot => extract_simple (hsimple root hroot)

theorem mapM_extract_dicts (parts : List (List (String × Json))) :
    (parts.map AnyPart.dict).mapM extractPartInfo = .ok parts := by
  rw [mapM_eq_ok_iff, List.forall₂_map_left_iff, List.forall₂_same]
  exact fun _ _ => rfl

/-- The data of the message of LangChain. -/
def dataKept (roots : List Root) : Option Json := a2aData ((dataOf roots).map .obj)

variable {role : Role}

/-- The message of LangChain. -/
theorem a2aToLangchain_message (hsimple : ∀ root ∈ roots, root.Simple) :
    a2aToLangchain str (.message role roots) =
      .ok ⟨role.isAgent, contentOf roots, dataKept roots⟩ := by
  have hparts : (AnyMessage.message role roots).parts.mapM extractPartInfo =
      .ok (roots.map entriesOf ++ dataPart none) :=
    (mapM_extract_parts hsimple).trans (congrArg Except.ok (List.append_nil _).symm)
  rw [a2aToLangchain_eq hsimple hparts, dataKept, Option.filter_none, Option.toList_none,
    List.append_nil]
  cases role with
  | agent => rfl
  | user => rfl

/-- What is written for it. -/
theorem langchainToA2a_message (roots : List Root) (isAgent : Bool) :
    langchainToA2a str id uuid ⟨isAgent, contentOf roots, data⟩ =
      .ok (dictBack id uuid isAgent roots data) := by
  rw [langchainToA2a, partsOfContent_contentOf]
  rfl

theorem isAgent_dictBack :
    (dictBack id uuid isAgent roots data).message.isAgent = isAgent := by
  cases isAgent with
  | true => rfl
  | false => rfl

/-- The message of LangChain that is made of it. -/
theorem a2aToLangchain_dictBack (hsimple : ∀ root ∈ roots, root.Simple) :
    a2aToLangchain str (dictBack id uuid isAgent roots data).message =
      .ok ⟨isAgent, contentOf roots, data.filter Json.truthy⟩ := by
  have hparts : (dictBack id uuid isAgent roots data).message.parts.mapM extractPartInfo =
      .ok ((rootsBack roots).map entriesOf ++ dataPart data) := mapM_extract_dicts _
  rw [a2aToLangchain_eq (fun root hroot => simple_of_mem_rootsBack hroot) hparts,
    isAgent_dictBack, contentOf_rootsBack hsimple, dataOf_rootsBack]
  cases data.filter Json.truthy with
  | none => rfl
  | some data => rfl

/-- What survives but for the data. -/
theorem survivesRoundTrip_iff_data (hsimple : ∀ root ∈ roots, root.Simple) :
    SurvivesRoundTrip str id uuid (.message role roots) ↔
      ((dataKept roots).filter Json.truthy).toList = (dataOf roots).map .obj ∧
        (dataKept roots).filter Json.truthy = dataKept roots := by
  have hdata : (AnyMessage.message role roots).parts.filterMap AnyPart.data =
      (dataOf roots).map .obj := by
    show (roots.map AnyPart.part).filterMap AnyPart.data = _
    rw [List.filterMap_map, dataOf, List.map_filterMap]
    refine List.filterMap_congr fun root _ => ?_
    rcases root with text | (⟨bytes, mimeType⟩ | ⟨uri, mimeType⟩) | data
    · rfl
    · rfl
    · rfl
    · rfl
  constructor
  · rintro ⟨message, back, hmessage, hback, hsame, hagain⟩
    rw [a2aToLangchain_message hsimple] at hmessage
    obtain rfl := Except.ok.inj hmessage
    rw [langchainToA2a_message] at hback
    obtain rfl := Except.ok.inj hback
    rw [a2aToLangchain_dictBack hsimple] at hagain
    refine ⟨?_, congrArg BaseMessage.a2aData (Except.ok.inj hagain)⟩
    rw [← hdata, ← hsame.data, data_dictBack]
  · rintro ⟨hparts, hkept⟩
    refine ⟨_, _, a2aToLangchain_message hsimple, langchainToA2a_message roots _,
      ⟨?_, ?_, ?_, ?_⟩, ?_⟩
    · cases role with
      | agent => rfl
      | user => rfl
    · rw [text_dictBack]
      show _ = String.join ((roots.map AnyPart.part).map AnyPart.text)
      rw [List.map_map]
      rfl
    · rw [images_dictBack hsimple]
      show _ = (roots.map AnyPart.part).filterMap AnyPart.imageUri
      rw [List.filterMap_map]
      rfl
    · rw [data_dictBack, hparts, hdata]
    · rw [a2aToLangchain_dictBack hsimple, hkept]

/-- **Which messages survive**: those with no data part, or one that is not empty. -/
theorem survivesRoundTrip_iff (str : Json → String) (id : Option String) (uuid : String)
    (role : Role) (roots : List Root) (hsimple : ∀ root ∈ roots, root.Simple) :
    SurvivesRoundTrip str id uuid (.message role roots) ↔
      dataOf roots = [] ∨ ∃ data, data ≠ [] ∧ dataOf roots = [data] := by
  rw [survivesRoundTrip_iff_data hsimple, dataKept]
  rcases hdata : dataOf roots with _ | ⟨data, _ | ⟨data', rest⟩⟩
  · exact iff_of_true ⟨rfl, rfl⟩ (.inl rfl)
  · cases data with
    | nil =>
      refine iff_of_false (fun h => ?_) ?_
      · cases h.2
      · rintro (h | ⟨data, hne, h⟩)
        · cases h
        · exact hne (List.cons.inj h).1.symm
    | cons entry entries =>
      exact iff_of_true ⟨rfl, rfl⟩ (.inr ⟨_, List.cons_ne_nil _ _, rfl⟩)
  · refine iff_of_false (fun h => ?_) ?_
    · -- the list of the data is one data part
      have hlength := congrArg List.length h.1
      cases hlength
    · rintro (h | ⟨data'', -, h⟩)
      · cases h
      · cases h

theorem survivesRoundTrip_text_image_data :
    SurvivesRoundTrip (fun _ => "") none "id" (.message .user
      [.text "a", .file (.withUri "u" (some "image/png")), .data [("k", .null)]]) := by
  refine (survivesRoundTrip_iff _ _ _ _ _ ?_).mpr (.inr ⟨_, List.cons_ne_nil _ _, rfl⟩)
  exact List.forall_mem_cons.mpr ⟨trivial, List.forall_mem_cons.mpr
    ⟨isImage_png, List.forall_mem_singleton.mpr trivial⟩⟩

/-- Two data parts come back as one. -/
theorem two_data_parts :
    ¬ ∀ (str : Json → String) (id : Option String) (uuid : String) (role : Role)
      (roots : List Root), (∀ root ∈ roots, root.Simple) →
        SurvivesRoundTrip str id uuid (.message role roots) := by
  intro h
  have hsimple : ∀ root ∈ [Root.data [("a", .null)], Root.data [("b", .null)]], root.Simple :=
    List.forall_mem_cons.mpr ⟨trivial, List.forall_mem_singleton.mpr trivial⟩
  have hparts := ((survivesRoundTrip_iff_data hsimple).mp
    (h (fun _ => "") none "id" .user _ hsimple)).1
  cases congrArg List.length hparts

end A2A

end OpenLangGraph
