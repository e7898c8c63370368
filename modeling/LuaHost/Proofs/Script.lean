import LuaHost.Proofs.Text.Basic
import LuaHost.Script

/-!
# Reading scripts

A path that leads to a file ends in a name: every segment is looked up in a directory, and neither
staying there nor going up ever leads to a file (`last_of_follow`). So a script can be read if and
only if its file holds a text, and then it has the name of the file (`read_of_text`,
`read_of_error`).
-/

namespace LuaHost

open LuaHost.Text

/-- Two steps return something if and only if the first one does, and the second one with it. -/
lemma bind_eq_ok {ε α β : Type} {x : Except ε α} {f : α → Except ε β} {b : β} :
    x >>= f = .ok b ↔ ∃ a, x = .ok a ∧ f a = .ok b := by
  cases x with
  | error _ => exact ⟨nofun, nofun⟩
  | ok a =>
    constructor
    · intro returned
      exact ⟨a, rfl, returned⟩
    · rintro ⟨_, ⟨⟩, returned⟩
      exact returned

namespace Path

/-- A segment that names an entry of a directory. -/
def IsName (segment : List Char) : Prop :=
  isIdle segment = false ∧ segment ≠ ['.', '.']

/-- A name is the component of its segment. -/
lemma IsName.ofSegment {segment : List Char} (name : IsName segment) :
    Component.ofSegment segment = .named (String.ofList segment) := by
  rw [Component.ofSegment, if_neg]
  rw [beq_iff_eq]
  exact name.2

/-- If the last segment of a path is a name, it is the last component. -/
lemma getLast?_components {path : String} {front segment} (e : segments path = front ++ [segment])
    (name : IsName segment) :
    (components path).getLast? = some (.named (String.ofList segment)) := by
  have last (front : List (List Char)) :
      (((front ++ [segment]).filter fun segment => !isIdle segment).map
        Component.ofSegment).getLast? = some (.named (String.ofList segment)) := by
    rw [List.filter_append, List.filter_cons_of_pos (by rw [name.1, Bool.not_false]),
      List.filter_nil, List.map_append, List.map_singleton, List.getLast?_concat, name.ofSegment]
  have before (first : Component) {later : List Component} {component}
      (e : later.getLast? = some component) : (first :: later).getLast? = some component := by
    rw [List.getLast?_cons, e, Option.getD_some]
  unfold components
  rw [e]
  split
  case isTrue => exact before .root (last front)
  case isFalse =>
    split
    case h_1 rest same =>
      cases front with
      | nil =>
        -- The leading dot would be the last segment, and that one is a name.
        obtain ⟨rfl, _⟩ := List.cons.inj same
        exact absurd name.1 (by decide)
      | cons first front =>
        obtain ⟨_, rfl⟩ := List.cons.inj same
        exact before .current (last front)
    case h_2 => exact last front

/-- So it is the name of the file. -/
lemma fileName?_of_last {path : String} {front segment} (e : segments path = front ++ [segment])
    (name : IsName segment) : fileName? path = some (String.ofList segment) := by
  rw [fileName?, getLast?_components e name]

end Path

namespace FileTree

variable {tree : FileTree} {place target : Place} {node : Node}

/-- All places above one are directories. -/
def Reached (tree : FileTree) (place : Place) : Prop :=
  ∀ n < place.names.length, tree.node? { place with names := place.names.take n } = some .directory

/-- The places that paths start from are directories. -/
lemma node?_anchor (anchor : place.names = []) : tree.node? place = some .directory := by
  rw [node?, if_pos]
  rw [Place.isAnchor, anchor, List.isEmpty_nil]

/-- Nothing is above them. -/
lemma reached_anchor (anchor : place.names = []) : tree.Reached place := by
  intro n lt
  rw [anchor] at lt
  exact absurd lt (Nat.not_lt_zero n)

/-- To go down from a directory is to be below directories. -/
lemma Reached.child (reached : tree.Reached place) (here : tree.node? place = some .directory)
    (name : String) : tree.Reached (place.child name) := by
  intro n lt
  rw [Place.child, List.length_append, List.length_singleton, Nat.lt_succ_iff] at lt
  change tree.node? { place with names := (place.names ++ [name]).take n } = some .directory
  rw [List.take_append_of_le_length lt]
  obtain lt | rfl := Nat.lt_or_eq_of_le lt
  · exact reached n lt
  · rw [List.take_length]
    exact here

/-- To go up is to be at a directory. -/
lemma Reached.parent (reached : tree.Reached place) :
    tree.Reached place.parent ∧ tree.node? place.parent = some .directory := by
  unfold Place.parent
  split
  case isTrue anchor =>
    rw [List.isEmpty_iff] at anchor
    exact ⟨reached_anchor anchor, node?_anchor anchor⟩
  case isFalse inside =>
    rw [List.isEmpty_iff] at inside
    have shorter : place.names.length - 1 < place.names.length :=
      Nat.sub_one_lt_of_lt (List.length_pos_iff.mpr inside)
    rw [List.dropLast_eq_take]
    constructor
    · intro n lt
      rw [List.length_take, Nat.lt_min] at lt
      change tree.node? { place with names := (place.names.take _).take n } = some .directory
      rw [List.take_take, Nat.min_eq_left (Nat.le_of_lt lt.1)]
      exact reached n lt.2
    · exact reached _ shorter

/-- What passes the test for directories is one. -/
lemma requireDirectory_eq_ok (required : tree.requireDirectory place = .ok ()) :
    tree.node? place = some .directory := by
  unfold requireDirectory at required
  split at required
  case h_1 here => exact here
  all_goals cases required

/-- A segment stands in a directory; it stays there, goes up or goes down. -/
lemma follow_cons {segment rest} (found : tree.follow place (segment :: rest) = .ok target) :
    tree.node? place = some .directory ∧
      (tree.follow place rest = .ok target ∨ tree.follow place.parent rest = .ok target ∨
        Path.IsName segment ∧
          tree.follow (place.child (String.ofList segment)) rest = .ok target) := by
  rw [follow] at found
  obtain ⟨_, required, found⟩ := bind_eq_ok.mp found
  refine ⟨requireDirectory_eq_ok required, ?_⟩
  split at found
  case isTrue => exact .inl found
  case isFalse counts =>
    split at found
    case isTrue => exact .inr (.inl found)
    case isFalse down =>
      rw [beq_iff_eq] at down
      refine .inr (.inr ⟨⟨Bool.eq_false_iff.mpr counts, down⟩, ?_⟩)
      by_cases long : longestName < (String.ofList segment).utf8ByteSize
      · rw [if_pos long] at found
        cases found
      · rw [if_neg long] at found
        exact found

/-- The last segment on the way to a file is a name. -/
lemma last_of_follow {segments} (reached : tree.Reached place) (some_way : segments ≠ [])
    (found : tree.follow place segments = .ok target) (there : tree.node? target = some node)
    (file : node ≠ .directory) :
    ∃ front segment, segments = front ++ [segment] ∧ Path.IsName segment := by
  induction segments generalizing place with
  | nil => exact absurd rfl some_way
  | cons segment rest ih =>
    -- The way goes on from one of three places, and only the one below may be a file.
    have go {next} (reached : tree.Reached next) (found : tree.follow next rest = .ok target)
        (ends : rest = [] → tree.node? next = some .directory) :
        ∃ front last, segment :: rest = front ++ [last] ∧ Path.IsName last := by
      cases rest with
      | nil =>
        cases found
        rw [ends rfl] at there
        exact absurd (Option.some.inj there).symm file
      | cons _ _ =>
        obtain ⟨front, last, e, name⟩ := ih reached (List.cons_ne_nil _ _) found
        exact ⟨segment :: front, last, by rw [e, List.cons_append], name⟩
    obtain ⟨here, stays | up | ⟨name, down⟩⟩ := follow_cons found
    · exact go reached stays fun _ => here
    · exact go reached.parent.1 up fun _ => reached.parent.2
    · cases rest with
      | nil => exact ⟨[], segment, rfl, name⟩
      | cons _ _ => exact go (reached.child here _) down nofun

/-- What a path leads to is at the place that it leads to. -/
lemma lookup_eq_ok {path : String} (found : tree.lookup path = .ok node) :
    ∃ place, tree.locate path = .ok place ∧ tree.node? place = some node := by
  unfold lookup at found
  obtain ⟨place, located, found⟩ := bind_eq_ok.mp found
  refine ⟨place, located, ?_⟩
  cases here : tree.node? place with
  | none =>
    rw [here] at found
    cases found
  | some _ =>
    rw [here] at found
    cases found
    rfl

/-- A path that leads to a file has a file name. -/
lemma fileName?_of_lookup {path : String} (found : tree.lookup path = .ok node)
    (file : node ≠ .directory) : ∃ name, Path.fileName? path = some name := by
  obtain ⟨place, located, there⟩ := lookup_eq_ok found
  suffices last : ∃ front segment, Path.segments path = front ++ [segment] ∧ Path.IsName segment by
    obtain ⟨front, segment, e, name⟩ := last
    exact ⟨_, Path.fileName?_of_last e name⟩
  unfold locate at located
  split at located
  · cases located
  · split at located
    · cases located
    · split at located
      case h_1 => cases located
      case h_2 rest other e =>
        have some_way : rest ≠ [] := by
          rintro rfl
          exact other rfl
        obtain ⟨front, segment, rfl, name⟩ :=
          last_of_follow (reached_anchor rfl) some_way located there file
        exact ⟨[] :: front, segment, e, name⟩
      case h_3 => exact last_of_follow (reached_anchor rfl) (splitAll_ne_nil _ _) located there file

/-- A path leads to a file if what it leads to is no directory. -/
lemma isFile_iff {path : String} :
    tree.isFile path = true ↔ ∃ node, tree.lookup path = .ok node ∧ node ≠ .directory := by
  unfold isFile
  split
  case h_1 found =>
    exact iff_of_false Bool.false_ne_true (by rw [found]; rintro ⟨_, ⟨⟩, file⟩; exact file rfl)
  case h_2 node other found => exact iff_of_true rfl ⟨node, found, other⟩
  case h_3 found => exact iff_of_false Bool.false_ne_true (by rw [found]; rintro ⟨_, ⟨⟩, _⟩)

/-- A text is read from a file. -/
lemma lookup_of_readText {path text : String} (read : tree.readText path = .ok text) :
    ∃ content, tree.lookup path = .ok (.file content) := by
  unfold readText at read
  obtain ⟨node, found, read⟩ := bind_eq_ok.mp read
  cases node with
  | directory => cases read
  | sealed => cases read
  | file content => exact ⟨content, found⟩

end FileTree

namespace Script

variable {files : FileTree} {path : String}

/-- A script is read from a file that holds a text. -/
lemma read_of_text {code : String} (text : files.readText path = .ok code) :
    ∃ name, Path.fileName? path = some name ∧ read files path = .ok { name, path, code } := by
  obtain ⟨content, found⟩ := FileTree.lookup_of_readText text
  obtain ⟨name, e⟩ := FileTree.fileName?_of_lookup found nofun
  have file : files.isFile path = true := FileTree.isFile_iff.mpr ⟨_, found, nofun⟩
  refine ⟨name, e, ?_⟩
  simp only [read, file, if_true, e, text]

/-- Without a text there is no script. -/
lemma read_of_error {error : FileError} (unreadable : files.readText path = .error error) :
    ∃ reason, read files path = .error reason := by
  unfold read
  split
  · split
    · exact ⟨_, rfl⟩
    · rw [unreadable]
      exact ⟨_, rfl⟩
  · exact ⟨_, rfl⟩

end Script

end LuaHost
