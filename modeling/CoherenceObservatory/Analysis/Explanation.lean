import CoherenceObservatory.Lib.Json
import CoherenceObservatory.Analysis.Finding

/-!
# Explanations

An explanation is data: a kind, a subject and named sections of lines. Rendered as JSON, the
sections keep their order and the lines of a section are sorted by key, those with one key as they
were added. A control character that is no line end and no tab is rendered as a question mark.
-/

namespace CoherenceObservatory

open List

open Json (Chars IsUtf8 Member Parses Value)

/-- `ExplanationLine`. -/
structure ExplanationLine where
  key : Text
  value : Text

/-- Lines under a title. -/
structure ExplanationSection where
  title : Text
  lines : List ExplanationLine

/-- What is explained, section by section. -/
structure Explanation where
  kind : Text
  subject : Text
  sections : List ExplanationSection

/-! ## Rendering -/

/-- What `json_escape` writes for a character. -/
def escapeChar (c : UInt8) : Text :=
  if c = 34 then [92, 34]
  else if c = 92 then [92, 92]
  else if c = 10 then [92, 110]
  else if c = 13 then [92, 114]
  else if c = 9 then [92, 116]
  else if c < 0x20 then [63]
  else [c]

/-- `json_escape`. -/
def jsonEscape (text : Text) : Text := text.flatMap escapeChar

/-- The lines in the order in which they are rendered, that of `std::stable_sort` by key. -/
def ExplanationSection.sortedLines (s : ExplanationSection) : List ExplanationLine :=
  s.lines.insertionSort fun a b => Text.le a.key b.key

/-- One line, as `render_json` writes it. -/
def ExplanationLine.renderJson (line : ExplanationLine) : Text :=
  ascii "\x7b\"key\":\"" ++ jsonEscape line.key ++ ascii "\",\"value\":\"" ++
    jsonEscape line.value ++ ascii "\"\x7d"

@[inherit_doc ExplanationLine.renderJson]
def ExplanationSection.renderJson (s : ExplanationSection) : Text :=
  ascii "\x7b\"title\":\"" ++ jsonEscape s.title ++ ascii "\",\"lines\":[" ++
    (ascii ",").intercalate (s.sortedLines.map (·.renderJson)) ++ ascii "]\x7d"

/-- `render_json`. -/
def renderJson (e : Explanation) : Text :=
  ascii "\x7b" ++ ascii "\"kind\":\"" ++ jsonEscape e.kind ++ ascii "\",\"subject\":\"" ++
    jsonEscape e.subject ++ ascii "\",\"sections\":[" ++
    (ascii ",").intercalate (e.sections.map (·.renderJson)) ++ ascii "]\x7d"

/-! ## What the text says -/

/-- A text with question marks for control characters that are no line ends and no tabs. -/
def clean (text : Text) : Text :=
  text.map fun c => if c < 0x20 ∧ c ≠ 10 ∧ c ≠ 13 ∧ c ≠ 9 then 63 else c

/-- `sorted` has the lines by key, and those of one key in the order they had. -/
structure StablySorted (lines sorted : List ExplanationLine) : Prop where
  perm : sorted.Perm lines
  pairwise : sorted.Pairwise fun a b => Text.le a.key b.key
  stable : ∀ key, sorted.filter (·.key = key) = lines.filter (·.key = key)

/-- What a rendered line says. -/
def ExplanationLine.json (line : ExplanationLine) : Value :=
  .object [(ascii "key", .string (clean line.key)), (ascii "value", .string (clean line.value))]

/-- A section with its lines in the order `lines`. -/
def ExplanationSection.json (s : ExplanationSection) (lines : List ExplanationLine) : Value :=
  .object [(ascii "title", .string (clean s.title)), (ascii "lines", .array (lines.map (·.json)))]

/-- What a rendered explanation says, with its sections given. -/
def Explanation.json (e : Explanation) (sections : List Value) : Value :=
  .object [(ascii "kind", .string (clean e.kind)), (ascii "subject", .string (clean e.subject)),
    (ascii "sections", .array sections)]

/-- The texts are valid UTF-8. -/
structure Explanation.Valid (e : Explanation) : Prop where
  kind : IsUtf8 e.kind
  subject : IsUtf8 e.subject
  title : ∀ s ∈ e.sections, IsUtf8 s.title
  key : ∀ s ∈ e.sections, ∀ line ∈ s.lines, IsUtf8 line.key
  value : ∀ s ∈ e.sections, ∀ line ∈ s.lines, IsUtf8 line.value

/-! ## Reading it back -/

/-- An escaped text stands for itself, up to the control characters. -/
theorem chars_jsonEscape (text : Text) : Chars (jsonEscape text) (clean text) := by
  induction text with
  | nil => exact .nil
  | cons c text ih =>
    rw [jsonEscape, flatMap_cons, clean, map_cons, escapeChar]
    by_cases hspecial : c = 34 ∨ c = 92 ∨ c = 10 ∨ c = 13 ∨ c = 9
    · rcases hspecial with rfl | rfl | rfl | rfl | rfl <;> exact .escape rfl ih
    · obtain ⟨h34, h92, h10, h13, h9⟩ := by simpa only [not_or] using hspecial
      rw [if_neg h34, if_neg h92, if_neg h10, if_neg h13, if_neg h9]
      by_cases hc : c < 0x20
      · rw [if_pos hc, if_pos ⟨hc, h10, h13, h9⟩]
        exact .plain (by decide) (by decide) (by decide) ih
      · rw [if_neg hc, if_neg fun h => hc h.1]
        exact .plain h34 h92 hc ih

/-- A member of an object under a name without special characters. -/
theorem member_name {text : Text} {v : Value} (name : String) (h : Parses text v)
    (hplain : jsonEscape (ascii name) = ascii name ∧ clean (ascii name) = ascii name) :
    Member (34 :: (ascii name ++ 34 :: 58 :: text)) (ascii name, v) :=
  .mk (by simpa only [hplain] using chars_jsonEscape (ascii name)) h

theorem parses_text (text : Text) :
    Parses (34 :: (jsonEscape text ++ [34])) (.string (clean text)) :=
  Json.parses_string (chars_jsonEscape text)

theorem forall₂_map {α : Type} {f : α → Text} {g : α → Value} (h : ∀ a, Parses (f a) (g a))
    (l : List α) : List.Forall₂ Parses (l.map f) (l.map g) :=
  forall₂_map_left_iff.2 (forall₂_map_right_iff.2 (forall₂_same.2 fun a _ => h a))

theorem parses_line (line : ExplanationLine) : Parses line.renderJson line.json := by
  have h := Json.parses_object (.cons (member_name "key" (parses_text line.key) ⟨rfl, rfl⟩)
    (.cons (member_name "value" (parses_text line.value) ⟨rfl, rfl⟩) .nil))
  simpa [ExplanationLine.renderJson, ExplanationLine.json, ascii,
    intercalate_cons_cons] using h

theorem parses_section (s : ExplanationSection) : Parses s.renderJson (s.json s.sortedLines) := by
  have hlines := Json.parses_array (forall₂_map parses_line s.sortedLines)
  have h := Json.parses_object (.cons (member_name "title" (parses_text s.title) ⟨rfl, rfl⟩)
    (.cons (member_name "lines" hlines ⟨rfl, rfl⟩) .nil))
  simpa [ExplanationSection.renderJson, ExplanationSection.json, ascii,
    intercalate_cons_cons] using h

theorem parses_renderJson (e : Explanation) :
    Parses (renderJson e) (e.json (e.sections.map fun s => s.json s.sortedLines)) := by
  have hsections := Json.parses_array (forall₂_map parses_section e.sections)
  have h := Json.parses_object (.cons (member_name "kind" (parses_text e.kind) ⟨rfl, rfl⟩)
    (.cons (member_name "subject" (parses_text e.subject) ⟨rfl, rfl⟩)
    (.cons (member_name "sections" hsections ⟨rfl, rfl⟩) .nil)))
  simpa [renderJson, Explanation.json, ascii, intercalate_cons_cons] using h

/-! ## Encoding -/

theorem isUtf8_jsonEscape {text : Text} (h : IsUtf8 text) : IsUtf8 (jsonEscape text) := by
  refine h.flatMap (fun b hb => ?_) fun b hb => ?_
  · unfold escapeChar
    split_ifs <;> simp [hb]
  · have hne (c : UInt8) (hc : c.toNat < 128) : b ≠ c := by
      rintro rfl
      exact absurd hc (Nat.not_lt.2 hb)
    have hlow : ¬b < 0x20 := fun hlt => absurd (UInt8.lt_iff_toNat_lt.1 hlt) (by simp; omega)
    rw [escapeChar, if_neg (hne 34 (by decide)), if_neg (hne 92 (by decide)),
      if_neg (hne 10 (by decide)), if_neg (hne 13 (by decide)), if_neg (hne 9 (by decide)),
      if_neg hlow]

theorem isUtf8_renderJson {e : Explanation} (h : e.Valid) : IsUtf8 (renderJson e) := by
  have hsection (s) (hs : s ∈ e.sections) : IsUtf8 s.renderJson := by
    have hline (line) (hline : line ∈ s.sortedLines) : IsUtf8 line.renderJson := by
      have hmem := (mem_insertionSort _).1 hline
      exact ((((IsUtf8.ascii rfl).append (isUtf8_jsonEscape (h.key s hs line hmem))).append
        (.ascii rfl)).append (isUtf8_jsonEscape (h.value s hs line hmem))).append (.ascii rfl)
    exact ((((IsUtf8.ascii rfl).append (isUtf8_jsonEscape (h.title s hs))).append
      (.ascii rfl)).append (.intercalate (.ascii rfl) (forall_mem_map.2 hline))).append
      (.ascii rfl)
  exact (((((((IsUtf8.ascii rfl).append (.ascii rfl)).append (isUtf8_jsonEscape h.kind)).append
    (.ascii rfl)).append (isUtf8_jsonEscape h.subject)).append (.ascii rfl)).append
    (.intercalate (.ascii rfl) (forall_mem_map.2 hsection))).append (.ascii rfl)

/-! ## Sorting -/

instance : Std.Total fun a b : ExplanationLine => Text.le a.key b.key where
  total _ _ := Text.le_total _ _

instance : IsTrans ExplanationLine fun a b => Text.le a.key b.key where
  trans _ _ _ := Text.le_trans

theorem stablySorted_sortedLines (s : ExplanationSection) : StablySorted s.lines s.sortedLines where
  perm := perm_insertionSort _ _
  pairwise := pairwise_insertionSort _ _
  stable key := by
    -- the lines of one key are in order already, so sorting leaves them in the order they have
    have hsorted : (s.lines.filter (·.key = key)).Pairwise fun a b => Text.le a.key b.key := by
      refine pairwise_of_forall_mem_list fun a ha b hb => ?_
      rw [(by simpa using of_mem_filter ha : a.key = key),
        (by simpa using of_mem_filter hb : b.key = key)]
      exact (Text.le_total key key).elim id id
    have hsub := (sublist_insertionSort hsorted filter_sublist).filter (·.key = key)
    simp only [filter_filter, Bool.and_self] at hsub
    exact (hsub.eq_of_length ((perm_insertionSort _ _).filter _).length_eq.symm).symm

/-- What is rendered is JSON in UTF-8, and reads as the explanation: its kind, its subject and its
    sections in order, each with its lines sorted by key, in texts that are `clean`. -/
theorem renderJson_accepted (e : Explanation) (h : e.Valid) :
    Json.Accepts (renderJson e) (e.json (e.sections.map fun s => s.json s.sortedLines)) ∧
      ∀ s ∈ e.sections, StablySorted s.lines s.sortedLines :=
  ⟨(parses_renderJson e).accepts (isUtf8_renderJson h), fun s _ => stablySorted_sortedLines s⟩

/-- A section of two lines, one with a quote and a bell in it. -/
def smallExplanation : Explanation where
  kind := ascii "cost"
  subject := []
  sections := [⟨ascii "terms", [⟨ascii "b", [34, 7]⟩, ⟨ascii "a", ascii "1"⟩]⟩]

/-- An explanation with a byte that is not printable. -/
theorem renderJson_accepted_small :
    Json.Accepts
      (ascii "\x7b\"kind\":\"cost\",\"subject\":\"\",\"sections\":[" ++
        ascii "\x7b\"title\":\"terms\",\"lines\":[\x7b\"key\":\"a\",\"value\":\"1\"\x7d," ++
        ascii "\x7b\"key\":\"b\",\"value\":\"\\\"?\"\x7d]\x7d]\x7d")
      (smallExplanation.json [(smallExplanation.sections.head (by decide)).json
        [⟨ascii "a", ascii "1"⟩, ⟨ascii "b", [34, 7]⟩]]) :=
  (renderJson_accepted smallExplanation
    ⟨.ascii rfl, .nil, List.forall_mem_singleton.2 (.ascii rfl),
      List.forall_mem_singleton.2
        (List.forall_mem_cons.2 ⟨.ascii rfl, List.forall_mem_singleton.2 (.ascii rfl)⟩),
      List.forall_mem_singleton.2
        (List.forall_mem_cons.2 ⟨.ascii rfl, List.forall_mem_singleton.2 (.ascii rfl)⟩)⟩).1

end CoherenceObservatory
