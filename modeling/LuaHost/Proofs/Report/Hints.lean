import LuaHost.Proofs.Report.Identifier
import Mathlib.Data.List.Nodup

/-!
# The blocks of hints of a message

Which rules contribute a block is told by the phrases in the message alone (`hasBlock_iff`). Two of
the rules stand behind more special ones, whose phrases begin with theirs. So of such a pair exactly
one contributes a block if the general phrase occurs, and none otherwise
(`StandsBehind.complementary`). The main statement is `blocks_of_message`.
-/

namespace LuaHost

open LuaHost.Text

/-- A text occurs in a message. -/
def Mentions (message text : String) : Prop :=
  text.toList <:+: message.toList

/-- Where a text occurs, what it begins with occurs too. -/
lemma Mentions.of_prefix {message text more : String} (mentions : Mentions message text)
    (begins : more.toList <+: text.toList) : Mentions message more :=
  begins.isInfix.trans mentions

namespace Identifier

/-- A variable is found if and only if some mark of a kind is followed by a name. -/
lemma isSome_qualified?_iff {message : String} :
    (qualified? message).isSome = true ↔
      ∃ kind ∈ kinds, ∃ name, FirstNames (marker kind) message.toList name := by
  simp only [qualified?, List.isSome_findSome?, List.any_eq_true, Option.isSome_map,
    Option.isSome_iff_exists, quotedAfter?_eq_some_iff]

/-- A function is found if and only if the first mark of functions is followed by a name. -/
lemma isSome_callee?_iff {message : String} :
    (callee? message).isSome = true ↔ ∃ name, FirstNames functionMarker message.toList name := by
  simp only [callee?, Option.isSome_map, Option.isSome_iff_exists, quotedAfter?_eq_some_iff]

end Identifier

/-- What an extraction looks for stands in a message: a name behind the first mark of a kind, or
behind the first mark of functions. -/
def Extraction.Succeeds (message : String) : Extraction → Prop
  | .nothing => False
  | .variable =>
    ∃ kind ∈ Identifier.kinds, ∃ name,
      Identifier.FirstNames (Identifier.marker kind) message.toList name
  | .function => ∃ name, Identifier.FirstNames Identifier.functionMarker message.toList name

/-- An extraction finds something if and only if what it looks for is there. -/
lemma Extraction.isSome_apply_iff {message : String} :
    ∀ {extraction : Extraction}, (extraction.apply message).isSome = true ↔
      extraction.Succeeds message
  | .nothing => ⟨nofun, nofun⟩
  | .variable => Identifier.isSome_qualified?_iff
  | .function => Identifier.isSome_callee?_iff

namespace HintRule

/-- Rules go by different names. -/
lemma names_nodup : (all.map name).Nodup := by
  decide

/-- So a rule is the one of its name. -/
lemma eq_of_name {rule other : HintRule} (mem : rule ∈ all) (mem' : other ∈ all)
    (same : rule.name = other.name) : rule = other :=
  List.inj_on_of_nodup_map names_nodup mem mem' same

/-- A rule applies if and only if its phrase occurs. -/
lemma applies_iff {rule : HintRule} {message : String} :
    rule.applies message = true ↔ Mentions message rule.phrase := by
  rw [applies, occurs, Option.isSome_iff_ne_none, Ne, splitFirst?_eq_none_iff, not_not]
  rfl

/-- A rule gives way to another one whose phrase occurs. -/
def GivesWay (message : String) (rule : HintRule) : Prop :=
  ∃ other ∈ all, Mentions message other.phrase ∧ rule.fallbackFor = some other.name

end HintRule

namespace HintBlock

variable {message : String}

/-- The blocks are those of the rules whose phrase occurs and that do not give way. -/
lemma forMessage_eq (message : String) :
    ∃ kept : List HintRule, kept.Sublist HintRule.all ∧
      forMessage message = kept.map (ofRule message) ∧
      ∀ rule, rule ∈ kept ↔
        rule ∈ HintRule.all ∧ Mentions message rule.phrase ∧ ¬ rule.GivesWay message := by
  refine ⟨_, List.filter_sublist.trans List.filter_sublist, rfl, fun rule => ?_⟩
  rw [List.mem_filter, List.mem_filter, HintRule.applies_iff, and_assoc,
    Bool.not_eq_true', ← Bool.not_eq_true]
  -- What is left is that a rule is dropped if and only if it gives way.
  refine and_congr_right fun _ => and_congr_right fun _ => not_congr ?_
  simp only [Option.any_eq_true, List.any_eq_true, List.mem_filter, HintRule.applies_iff,
    beq_iff_eq, HintRule.GivesWay]
  constructor
  · rintro ⟨_, fallback, other, ⟨mem, mentions⟩, rfl⟩
    exact ⟨other, mem, mentions, fallback⟩
  · rintro ⟨other, mem, mentions, fallback⟩
    exact ⟨other.name, fallback, other, ⟨mem, mentions⟩, rfl⟩

/-- A rule contributes a block to a message. -/
def HasBlock (message : String) (rule : HintRule) : Prop :=
  ∃ block ∈ forMessage message, block.rule = rule.name

/-- A rule contributes a block if and only if its phrase occurs and it does not give way. -/
lemma hasBlock_iff {rule : HintRule} (mem : rule ∈ HintRule.all) :
    HasBlock message rule ↔ Mentions message rule.phrase ∧ ¬ rule.GivesWay message := by
  obtain ⟨kept, _, blocks, mem_kept⟩ := forMessage_eq message
  rw [HasBlock, blocks]
  constructor
  · rintro ⟨_, made, same⟩
    obtain ⟨other, here, rfl⟩ := List.mem_map.mp made
    obtain ⟨known, contributes⟩ := (mem_kept other).mp here
    obtain rfl := HintRule.eq_of_name known mem same
    exact contributes
  · intro contributes
    exact ⟨_, List.mem_map_of_mem ((mem_kept rule).mpr ⟨mem, contributes⟩), rfl⟩

/-- A rule that stands behind none contributes one if and only if its phrase occurs. -/
lemma hasBlock_of_fallbackFor_eq_none {rule : HintRule} (mem : rule ∈ HintRule.all)
    (own : rule.fallbackFor = none) :
    HasBlock message rule ↔ Mentions message rule.phrase := by
  rw [hasBlock_iff mem]
  apply and_iff_left
  rintro ⟨other, _, _, fallback⟩
  rw [own] at fallback
  cases fallback

/-! ### Pairs of rules -/

/-- A rule gives way to a more special one, which gives way to none, and whose phrase begins with
its own. -/
structure StandsBehind (general special : HintRule) : Prop where
  mem : general ∈ HintRule.all
  special_mem : special ∈ HintRule.all
  fallback : general.fallbackFor = some special.name
  own : special.fallbackFor = none
  begins : general.phrase.toList <+: special.phrase.toList

/-- The general rule of a pair has a block if and only if its phrase occurs and the special one does
not. So one of the two has a block if the general phrase occurs, but not both, and otherwise none
has. -/
structure Complementary (message : String) (general special : HintRule) : Prop where
  general_iff : HasBlock message general ↔
    Mentions message general.phrase ∧ ¬ Mentions message special.phrase
  one_of_both : Mentions message general.phrase →
    (HasBlock message special ↔ ¬ HasBlock message general)
  none_of_both : ¬ Mentions message general.phrase →
    ¬ HasBlock message special ∧ ¬ HasBlock message general

variable {general special : HintRule}

/-- The general rule gives way if and only if the special phrase occurs. -/
lemma StandsBehind.givesWay_iff (pair : StandsBehind general special) :
    general.GivesWay message ↔ Mentions message special.phrase := by
  constructor
  · rintro ⟨other, mem, mentions, fallback⟩
    have same : special.name = other.name := Option.some.inj (pair.fallback.symm.trans fallback)
    rwa [HintRule.eq_of_name pair.special_mem mem same]
  · intro mentions
    exact ⟨special, pair.special_mem, mentions, pair.fallback⟩

/-- So the two rules of a pair complement each other. -/
lemma StandsBehind.complementary (pair : StandsBehind general special) :
    Complementary message general special := by
  have general_iff : HasBlock message general ↔
      Mentions message general.phrase ∧ ¬ Mentions message special.phrase := by
    rw [hasBlock_iff pair.mem, pair.givesWay_iff]
  have special_iff : HasBlock message special ↔ Mentions message special.phrase :=
    hasBlock_of_fallbackFor_eq_none pair.special_mem pair.own
  constructor
  · exact general_iff
  · intro mentions
    rw [special_iff, general_iff, not_and, not_not]
    exact ⟨fun both _ => both, fun both => both mentions⟩
  · intro silent
    rw [special_iff, general_iff]
    exact ⟨fun mentions => silent (mentions.of_prefix pair.begins),
      fun mentions => silent mentions.1⟩

/-- Calls of any value stand behind calls of nil. -/
lemma callValue_standsBehind : StandsBehind .callValue .nilCall :=
  ⟨by decide, by decide, rfl, rfl, by decide⟩

/-- Accesses to any value stand behind accesses to nil. -/
lemma indexValue_standsBehind : StandsBehind .indexValue .nilIndex :=
  ⟨by decide, by decide, rfl, rfl, by decide⟩

/-! ### The lines of a block -/

/-- The hints of a rule for a message: its own lines, and one more about the name that it finds. -/
structure Made (message : String) (block : HintBlock) (rule : HintRule) : Prop where
  rule_eq : block.rule = rule.name
  found_iff : block.identifier.isSome = true ↔ rule.extraction.Succeeds message
  identifier_eq : block.identifier = rule.extraction.apply message
  hints_of_none : block.identifier = none → block.hints = rule.hints
  hints_of_some : ∀ found, block.identifier = some found →
    block.hints = rule.hints ++ [offendingLine found]

/-- What a rule makes of a message has its lines and the name that it finds. -/
lemma ofRule_made (message : String) (rule : HintRule) :
    Made message (ofRule message rule) rule := by
  have hints : (ofRule message rule).hints =
      rule.hints ++ ((ofRule message rule).identifier.map offendingLine).toList := rfl
  refine ⟨rfl, Extraction.isSome_apply_iff, rfl, ?_, ?_⟩
  · intro none
    rw [hints, none]
    exact List.append_nil _
  · intro found some
    rw [hints, some]
    rfl

/-- What the blocks of a message are. They are in the order of the rules, at most one of each. A
rule that stands behind none has one if and only if its phrase occurs; of calls and of accesses, the
general rule has one if and only if its phrase occurs without the special one. A block has the lines
of its rule, and one more if and only if it has found a name. -/
theorem blocks_of_message (message : String) :
    ((forMessage message).map HintBlock.rule).Sublist (HintRule.all.map HintRule.name) ∧
    ((forMessage message).map HintBlock.rule).Nodup ∧
      (∀ rule ∈ HintRule.all, rule.fallbackFor = none →
        (HasBlock message rule ↔ Mentions message rule.phrase)) ∧
      Complementary message .callValue .nilCall ∧ Complementary message .indexValue .nilIndex ∧
      ∀ block ∈ forMessage message, ∃ rule ∈ HintRule.all, Made message block rule := by
  obtain ⟨kept, sub, made, mem_kept⟩ := forMessage_eq message
  have names : (forMessage message).map HintBlock.rule = kept.map HintRule.name := by
    rw [made, List.map_map]
    rfl
  have ordered :
      ((forMessage message).map HintBlock.rule).Sublist (HintRule.all.map HintRule.name) := by
    rw [names]
    exact sub.map _
  refine ⟨ordered, HintRule.names_nodup.sublist ordered, ?_, callValue_standsBehind.complementary,
    indexValue_standsBehind.complementary, ?_⟩
  · exact fun rule => hasBlock_of_fallbackFor_eq_none
  · intro block mem
    rw [made] at mem
    obtain ⟨rule, here, rfl⟩ := List.mem_map.mp mem
    exact ⟨rule, sub.subset here, ofRule_made message rule⟩

end HintBlock

end LuaHost
