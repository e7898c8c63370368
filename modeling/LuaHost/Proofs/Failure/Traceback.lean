import LuaHost.Failure.Basic
import LuaHost.Proofs.Failure.Location
import Mathlib.Data.List.TakeWhile
import Mathlib.Tactic.Common

/-!
# Writing and reading tracebacks

How a traceback is written, row by row, and that reading it gives the frames back. A row is legible
(`Row.Legible`) if its parts can be told apart: sources may have colons and names may have quotes,
but no part goes over the end of its line. The main statement is `parse_text_of_legible`: of a
traceback with legible rows, and of a failure that it is appended to, all frames are read but the
native ones in front.
-/

namespace LuaHost

open LuaHost.Text

/-! ### Locations -/

namespace Location

/-- A location that can be told from its written form in a row. -/
structure Legible (location : Location) : Prop where
  some_source : location.source ≠ ""
  trimmed : Trimmed location.source.toList
  one_line : '\n' ∉ location.source.toList
  unseparated : ¬ Frame.separator <:+: location.source.toList
  /-- A source alone does not end as if it had a line. -/
  unlined : location.line = none → ∀ front numeral,
    location.source.toList = front ++ ':' :: numeral → wordValue? numeral = none

/-- A source without a colon does not end as if it had a line. -/
lemma unlined_of_not_mem {source : String} (free : ':' ∉ source.toList) (front numeral : List Char)
    (e : source.toList = front ++ ':' :: numeral) : wordValue? numeral = none := by
  rw [e] at free
  exact absurd (by simp) free

namespace Legible

variable {location : Location}

/-- A legible location is read back. -/
lemma parse_text (legible : location.Legible) : parse location.text = location := by
  obtain ⟨_, trimmed, _, _, unlined⟩ := legible
  rcases location with ⟨source, _ | n⟩
  · exact parse_text_of_none trimmed (unlined rfl)
  · exact parse_text_of_some trimmed.1 n

/-- A legible location begins with a character that is not blank. -/
lemma text_eq_cons (legible : location.Legible) :
    ∃ c rest, location.text.toList = c :: rest ∧ isBlank c = false := by
  have some_source : location.source.toList ≠ [] := by
    rw [Ne, String.toList_eq_nil_iff]
    exact legible.some_source
  obtain ⟨c, rest, e⟩ := List.exists_cons_of_ne_nil some_source
  have solid : isBlank c = false := legible.trimmed.1 c (by rw [e]; rfl)
  obtain ⟨_, text⟩ | ⟨n, _, text⟩ := location.text_cases
  · exact ⟨c, rest, by rw [text, e], solid⟩
  · exact ⟨c, rest ++ ':' :: digits n.toNat, by rw [text, e, List.cons_append], solid⟩

/-- A legible location is in one line. -/
lemma newline_not_mem_text (legible : location.Legible) : '\n' ∉ location.text.toList := by
  obtain ⟨_, text⟩ | ⟨n, _, text⟩ := location.text_cases
  · rw [text]
    exact legible.one_line
  · rw [text, List.mem_append, List.mem_cons]
    rintro (mem | e | mem)
    · exact legible.one_line mem
    · cases e
    · exact not_mem_digits rfl _ mem

/-- What separates a location from what was running is not in a legible one: it ends with a blank,
and there is none in a line. -/
lemma separator_not_infix_text (legible : location.Legible) :
    ¬ Frame.separator <:+: location.text.toList := by
  obtain ⟨_, text⟩ | ⟨n, _, text⟩ := location.text_cases
  · rw [text]
    exact legible.unseparated
  · rw [text]
    have blank : ' ' ∉ ':' :: digits n.toNat := by
      rw [List.mem_cons, not_or]
      exact ⟨by decide, not_mem_digits rfl _⟩
    exact fun within => legible.unseparated (infix_of_append rfl blank within)

end Legible

end Location

namespace Traceback

/-! ### What was running -/

/-- What a row of a traceback says was running. -/
inductive Caption where
  | mainChunk
  | unknown
  /-- A function without a name, by its place. -/
  | anonymous (place : String)
  | named (kind name : String)

/-- How the description of a function without a name begins. -/
def anonymousMark : List Char := "function <".toList

/-- What can stand in front of a quoted name: a word, or several, that do not look like a function
without a name. -/
structure IsKind (kind : List Char) : Prop where
  some_char : kind ≠ []
  solid : ∀ c ∈ kind.head?, isBlank c = false
  unquoted : '\'' ∉ kind
  one_line : '\n' ∉ kind
  named : ¬ anonymousMark <+: kind

/-- A word without quotes is a kind. -/
lemma isKind_of_word {kind : List Char} (some_char : kind ≠ [])
    (word : ∀ c ∈ kind, isBlank c = false ∧ c ≠ '\'') : IsKind kind where
  some_char := some_char
  solid c head := (word c (List.mem_of_mem_head? head)).1
  unquoted mem := (word _ mem).2 rfl
  one_line mem := absurd (word _ mem).1 (by decide)
  named beginning := by
    have blank : ' ' ∈ anonymousMark := by decide
    exact absurd (word _ (beginning.subset blank)).1 (by decide)

/-- A kind in front of a quoted name does not look like a function without a name either. -/
lemma IsKind.not_anonymous {kind : List Char} (isKind : IsKind kind) (rest : List Char) :
    ¬ anonymousMark <+: kind ++ ' ' :: '\'' :: rest := by
  intro beginning
  obtain within | ⟨beyond, some_beyond, beyond_begins, e⟩ := prefix_append_cases beginning
  · exact isKind.named within
  · -- Behind the kind come a blank and a quote, but the mark ends otherwise and has no quote.
    match beyond, some_beyond, beyond_begins with
    | [c], _, beyond_begins =>
      obtain rfl : c = ' ' := by simpa using beyond_begins
      have last : anonymousMark.getLast? = some ' ' := by rw [e, List.getLast?_concat]
      exact absurd last (by decide)
    | c :: d :: beyond, _, beyond_begins =>
      obtain ⟨_, rfl, _⟩ : c = ' ' ∧ d = '\'' ∧ beyond <+: rest := by simpa using beyond_begins
      have quote : '\'' ∈ anonymousMark := by simp [e]
      exact absurd quote (by decide)

namespace Caption

/-- The written form of what was running. -/
def text : Caption → String
  | .mainChunk => Frame.mainChunk
  | .unknown => "?"
  | .anonymous place => String.ofList (anonymousMark ++ place.toList ++ ['>'])
  | .named kind name => String.ofList (kind.toList ++ ' ' :: '\'' :: (name.toList ++ ['\'']))

/-- The name of what was running. -/
def name? : Caption → Option String
  | .mainChunk => some Frame.mainChunk
  | .unknown => none
  | .anonymous _ => none
  | .named _ name => some name

/-- What was running can be told from its written form. -/
def Legible : Caption → Prop
  | .mainChunk => True
  | .unknown => True
  | .anonymous place => '\n' ∉ place.toList
  | .named kind name => IsKind kind.toList ∧ name ≠ "" ∧ '\n' ∉ name.toList

variable {caption : Caption}

/-- Something is written in any case. -/
lemma text_ne_nil (caption : Caption) : caption.text.toList ≠ [] := by
  cases caption with
  | mainChunk => decide
  | unknown => decide
  | anonymous place => simp [text]
  | named kind name => simp [text]

/-- What is written has no blanks around it. -/
lemma Legible.trimmed (legible : caption.Legible) : Trimmed caption.text.toList := by
  cases caption with
  | mainChunk => decide
  | unknown => decide
  | anonymous place =>
    rw [text, String.toList_ofList]
    refine ⟨?_, ?_⟩
    · rintro c ⟨⟩
      rfl
    · rw [List.getLast?_concat]
      rintro c ⟨⟩
      rfl
  | named kind name =>
    obtain ⟨isKind, _, _⟩ := legible
    rw [text, String.toList_ofList]
    refine ⟨?_, ?_⟩
    · rw [List.head?_append_of_ne_nil _ isKind.some_char]
      exact isKind.solid
    · rw [← List.cons_append, ← List.cons_append, ← List.append_assoc, List.getLast?_concat]
      rintro c ⟨⟩
      rfl

/-- What is written of it is in one line. -/
lemma Legible.newline_not_mem_text (legible : caption.Legible) : '\n' ∉ caption.text.toList := by
  cases caption with
  | mainChunk => decide
  | unknown => decide
  | anonymous place =>
    have mark : '\n' ∉ anonymousMark := by decide
    have place_line : '\n' ∉ place.toList := legible
    simp [text, mark, place_line]
  | named kind name =>
    obtain ⟨isKind, _, name_line⟩ := legible
    simp [text, isKind.one_line, name_line]

/-- A quoted name is what is between the first and the last quote, even if it has quotes of its
own. -/
lemma betweenQuotes?_named {kind name : String} (isKind : IsKind kind.toList)
    (some_name : name ≠ "") :
    Frame.betweenQuotes? (text (.named kind name)).toList = some name.toList := by
  have chars : (text (.named kind name)).toList =
      (kind.toList ++ [' ']) ++ '\'' :: (name.toList ++ ['\'']) := by
    simp [text]
  have unquoted : '\'' ∉ kind.toList ++ [' '] := by
    simp [isKind.unquoted]
  have last : splitAtLast? '\'' (name.toList ++ ['\'']) = some (name.toList, []) :=
    splitAtLast?_append _ List.not_mem_nil
  rw [Frame.betweenQuotes?, chars, splitAtFirst?_append unquoted]
  simp [last, some_name]

/-- What is no main chunk has the name that is quoted, unless it is unknown or without a name. -/
lemma nameOf?_of_ne {what : List Char} (other : what ≠ Frame.mainChunk.toList) :
    Frame.nameOf? what =
      if what = ['?'] ∨ anonymousMark <+: what then none
      else (Frame.betweenQuotes? what).map String.ofList := by
  rw [Frame.nameOf?, if_neg (by simpa using other)]
  simp only [Bool.or_eq_true, beq_iff_eq, List.isPrefixOf_iff_prefix]
  rfl

/-- The name of what was running is read back. -/
lemma Legible.nameOf?_text (legible : caption.Legible) :
    Frame.nameOf? caption.text.toList = caption.name? := by
  cases caption with
  | mainChunk => rfl
  | unknown => rfl
  | anonymous place =>
    have beginning : anonymousMark <+: (text (.anonymous place)).toList := by
      rw [text, String.toList_ofList, List.append_assoc]
      exact List.prefix_append _ _
    have not_main : (text (.anonymous place)).toList ≠ Frame.mainChunk.toList := by
      intro same
      rw [same] at beginning
      exact absurd beginning (by decide)
    exact (nameOf?_of_ne not_main).trans (if_pos (.inr beginning))
  | named kind name =>
    obtain ⟨isKind, some_name, _⟩ := legible
    have quote : '\'' ∈ (text (.named kind name)).toList := by simp [text]
    have not_main : (text (.named kind name)).toList ≠ Frame.mainChunk.toList := by
      intro same
      rw [same] at quote
      exact absurd quote (by decide)
    have not_unknown : (text (.named kind name)).toList ≠ ['?'] := by
      intro same
      rw [same] at quote
      exact absurd quote (by decide)
    have not_anonymous : ¬ anonymousMark <+: (text (.named kind name)).toList := by
      rw [text, String.toList_ofList]
      exact isKind.not_anonymous _
    rw [nameOf?_of_ne not_main, if_neg (not_or.mpr ⟨not_unknown, not_anonymous⟩),
      betweenQuotes?_named isKind some_name, Option.map_some, String.ofList_toList]
    rfl

end Caption

/-! ### Rows -/

/-- A row of a traceback: a frame, or something else. -/
inductive Row where
  | frame (location : Location) (caption : Caption)
  | other (text : String)

namespace Row

/-- The written form of a row. -/
def text : Row → String
  | .frame location caption =>
    String.ofList ('\t' :: (location.text.toList ++ (Frame.separator ++ caption.text.toList)))
  | .other text => text

/-- The frame that a row is about. -/
def frame? : Row → Option Frame
  | .frame location caption => some { name := caption.name?, location := some location }
  | .other _ => none

/-- The frame of a row can be told from its written form, and that there is none too. -/
def Legible : Row → Prop
  | .frame location caption => location.Legible ∧ caption.Legible
  | .other text => '\n' ∉ text.toList ∧ ¬ Frame.separator <:+: text.toList

variable {row : Row}

/-- A legible row is in one line. -/
lemma Legible.newline_not_mem_text (legible : row.Legible) : '\n' ∉ row.text.toList := by
  cases row with
  | frame location caption =>
    have separator : '\n' ∉ Frame.separator := by decide
    simp [text, legible.1.newline_not_mem_text, legible.2.newline_not_mem_text, separator]
  | other text => exact legible.1

/-- The frame of a row is read back. -/
lemma Legible.parse?_text (legible : row.Legible) : Frame.parse? row.text.toList = row.frame? := by
  cases row with
  | frame location caption =>
    obtain ⟨location_legible, caption_legible⟩ := legible
    obtain ⟨c, rest, e, solid⟩ := location_legible.text_eq_cons
    have trimmed : Trimmed (location.text.toList ++ (Frame.separator ++ caption.text.toList)) := by
      refine ⟨?_, ?_⟩
      · rw [e]
        rintro _ ⟨⟩
        exact solid
      · rw [← List.append_assoc, List.getLast?_append_of_ne_nil _ caption.text_ne_nil]
        exact caption_legible.trimmed.2
    have found : splitFirst? Frame.separator
        (location.text.toList ++ (Frame.separator ++ caption.text.toList)) =
          some (location.text.toList, caption.text.toList) :=
      splitFirst?_append (by decide) location_legible.separator_not_infix_text _
    rw [Frame.parse?, text, String.toList_ofList, trim_cons rfl, trimmed.trim_eq, found]
    simp [caption_legible.trimmed.trim_eq, caption_legible.nameOf?_text,
      location_legible.parse_text, frame?]
  | other text =>
    have unseparated : ¬ Frame.separator <:+: trim text.toList := fun within =>
      legible.2 (within.trans (infix_trim _))
    change (splitFirst? Frame.separator (trim text.toList)).map _ = none
    rw [splitFirst?_eq_none_iff.mpr unseparated, Option.map_none]

end Row

/-! ### Tracebacks -/

/-- The written form of a traceback. -/
def text (rows : List Row) : String :=
  String.ofList (header.toList ++ rows.flatMap fun row => '\n' :: row.text.toList)

/-- What is left of frames without the native ones in front. They stay if there are no others. -/
inductive LessNative (frames : List Frame) : List Frame → Prop where
  | native :
    (∀ frame ∈ frames, frame.isNative = true) →
    LessNative frames frames
  | script {front first rest} :
    frames = front ++ first :: rest →
    (∀ frame ∈ front, frame.isNative = true) →
    first.isNative = false →
    LessNative frames (first :: rest)

/-- Native frames in front are dropped. -/
lemma dropNative_lessNative (frames : List Frame) : LessNative frames (dropNative frames) := by
  unfold dropNative
  split
  case isTrue native => exact .native (List.all_eq_true.mp native)
  case isFalse some_script =>
    have split := List.takeWhile_append_dropWhile (p := Frame.isNative) (l := frames)
    cases rest : frames.dropWhile Frame.isNative with
    | nil =>
      rw [List.dropWhile_eq_nil_iff] at rest
      exact absurd (List.all_eq_true.mpr rest) some_script
    | cons first others =>
      rw [rest] at split
      have script : first.isNative = false := by
        have head := List.head?_dropWhile_not Frame.isNative frames
        rw [rest] at head
        simpa using head
      exact .script split.symm (fun frame mem => List.mem_takeWhile_imp mem) script

/-- A carriage return does not change what a row tells. -/
lemma parse?_chomp (line : List Char) : Frame.parse? (chomp line) = Frame.parse? line := by
  rw [Frame.parse?, trim_chomp, ← Frame.parse?]

/-- Behind a line, legible rows are read one by one. -/
lemma filterMap_lines {rows : List Row} (legible : ∀ row ∈ rows, row.Legible) {line : List Char}
    (one_line : '\n' ∉ line) :
    (lines (line ++ rows.flatMap fun row => '\n' :: row.text.toList)).filterMap Frame.parse? =
      (Frame.parse? line).toList ++ rows.filterMap Row.frame? := by
  induction rows generalizing line with
  | nil =>
    rw [List.flatMap_nil, List.append_nil, lines_of_not_mem one_line, List.filterMap_nil,
      List.append_nil]
    cases line with
    | nil => rfl
    | cons c line => cases e : Frame.parse? (c :: line) <;> simp [e]
  | cons row rows ih =>
    have this := legible row List.mem_cons_self
    have later :=
      ih (fun row mem => legible row (List.mem_cons_of_mem _ mem)) this.newline_not_mem_text
    have next : (Frame.parse? row.text.toList).toList ++ rows.filterMap Row.frame? =
        (row :: rows).filterMap Row.frame? := by
      rw [this.parse?_text]
      cases e : row.frame? <;> simp [e]
    rw [List.flatMap_cons, List.cons_append, lines_append one_line, ← next, ← later]
    cases e : Frame.parse? line <;> simp [parse?_chomp, e]

/-- The rows of a traceback come behind its header. -/
lemma body_append (after : List Char) : body (header.toList ++ after) = after := by
  rw [body, splitFirst?_self]

/-- A traceback is read row by row. -/
lemma parse_text {rows : List Row} (legible : ∀ row ∈ rows, row.Legible) :
    parse (text rows) = dropNative (rows.filterMap Row.frame?) := by
  rw [parse, text, String.toList_ofList, body_append]
  exact congrArg dropNative (filterMap_lines legible List.not_mem_nil)

/-- A message in front of a traceback is read up to the line of the header. -/
lemma ofDecorated_append {message : String} (free : ¬ header.toList <:+: message.toList)
    (rows : List Row) :
    Failure.ofDecorated (message ++ "\n" ++ text rows) =
      { message := String.ofList (trimEnd message.toList), frames := parse (text rows) } := by
  have chars : (message ++ "\n" ++ text rows).toList = (message.toList ++ ['\n']) ++
      (header.toList ++ rows.flatMap fun row => '\n' :: row.text.toList) := by
    simp [text]
  -- The header does not begin in the message, for it has no newline.
  have before : ¬ header.toList <:+: message.toList ++ ['\n'] := fun within =>
    free (infix_of_append (c := ':') rfl (by decide) within)
  rw [Failure.ofDecorated, chars, splitFirst?_append (by decide) before]
  simp only [trimEnd_concat (c := '\n') rfl]
  rfl

/-- Of a traceback with legible rows, the frames are read in their order, less the native ones in
front. With a message before it, which does not hold the header, it is a failure with the message,
trimmed at its end, and these frames. -/
theorem parse_text_of_legible (rows : List Row) (legible : ∀ row ∈ rows, row.Legible) :
    LessNative (rows.filterMap Row.frame?) (parse (text rows)) ∧
    ∀ message : String, ¬ header.toList <:+: message.toList →
      Failure.ofDecorated (message ++ "\n" ++ text rows) =
        { message := String.ofList (trimEnd message.toList), frames := parse (text rows) } := by
  refine ⟨?_, fun message free => ofDecorated_append free rows⟩
  rw [parse_text legible]
  exact dropNative_lessNative _

/-- A traceback with a colon in a source and a quote in a name. -/
def specimen : List Row := [
  .frame ⟨"[C]", none⟩ .unknown,
  .frame ⟨"[C]", none⟩ (.named "function" "error"),
  .frame ⟨"[string \"a:b\"]", some 3⟩ (.named "local" "it's"),
  .frame ⟨"main.lua", some 6⟩ (.anonymous "main.lua:5"),
  .other "\t(...tail calls...)",
  .frame ⟨"main.lua", some 9⟩ .mainChunk,
  .frame ⟨"[C]", none⟩ .unknown]

/-- It is read back, also behind a message. -/
theorem parse_text_of_legible_specimen :
    (∀ row ∈ specimen, row.Legible) ∧ ¬ header.toList <:+: "main.lua:3: boom ".toList ∧
    LessNative (specimen.filterMap Row.frame?) (parse (text specimen)) ∧
    Failure.ofDecorated ("main.lua:3: boom " ++ "\n" ++ text specimen) =
      { message := "main.lua:3: boom", frames := parse (text specimen) } := by
  have native : (⟨"[C]", none⟩ : Location).Legible :=
    ⟨by decide, by decide, by decide, by decide, fun _ => Location.unlined_of_not_mem (by decide)⟩
  have chunk : (⟨"[string \"a:b\"]", some 3⟩ : Location).Legible :=
    ⟨by decide, by decide, by decide, by decide, nofun⟩
  have trimmed : Trimmed "main.lua".toList := by decide
  have unseparated : ¬ Frame.separator <:+: "main.lua".toList := by decide
  have script (n : UInt32) : (⟨"main.lua", some n⟩ : Location).Legible :=
    ⟨(by decide : "main.lua" ≠ ""), trimmed, (by decide : '\n' ∉ "main.lua".toList),
      unseparated, nofun⟩
  have word {kind name : String} (some_char : kind.toList ≠ [])
      (word : (kind.toList.all fun c => !isBlank c && c != '\'') = true) (some_name : name ≠ "")
      (one_line : '\n' ∉ name.toList) : (Caption.named kind name).Legible :=
    ⟨isKind_of_word some_char (by simpa using word), some_name, one_line⟩
  have legible : ∀ row ∈ specimen, row.Legible := by
    simp only [specimen, List.forall_mem_cons]
    exact ⟨⟨native, trivial⟩, ⟨native, word (by decide) (by decide) (by decide) (by decide)⟩,
      ⟨chunk, word (by decide) (by decide) (by decide) (by decide)⟩,
      ⟨script 6, (by decide : '\n' ∉ "main.lua:5".toList)⟩, ⟨by decide, by decide⟩,
      ⟨script 9, trivial⟩, ⟨native, trivial⟩, nofun⟩
  have free : ¬ header.toList <:+: "main.lua:3: boom ".toList := by decide
  obtain ⟨less, read⟩ := parse_text_of_legible specimen legible
  exact ⟨legible, free, less, read "main.lua:3: boom " free⟩

end Traceback

end LuaHost
