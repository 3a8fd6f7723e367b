import LlvmProvision.Proofs.Numerals

/-!
# Lines of settings

A command line names settings, each with its values behind it (`Mention`).  The words are told
apart into just these items, in whatever order the settings stand (`fromWords_mentions`): a list
setting takes the words up to the next name, another setting takes one, and a name begins with a
dash, which no value does.

The values are judged setting by setting, so that the order of the mentions does not matter
either, except that the values of one setting are read in the order in which they stand.  A line
that says what may be said is read back (`Line`), and a single wrong value among its choices is
the one that is complained about (`parse_line`).
-/
namespace LlvmProvision.CommandLine

/-! ## Settings and the words behind them -/

/-- A setting that is named, with the words behind it. -/
structure Mention where
  setting : Setting
  values : List String
  deriving DecidableEq, Repr

namespace Mention

/-- The words in a row. -/
def words (mention : Mention) : List String :=
  ("--" ++ mention.setting.name) :: mention.values

/-- What the words say. -/
def items (mention : Mention) : List Item :=
  .name mention.setting :: mention.values.map (.value mention.setting)

/-- The values for a setting, if it is the one that is named. -/
def valuesFor (setting : Setting) (mention : Mention) : List String :=
  if mention.setting = setting then mention.values else []

/-- The words behind the name are all taken for values of the setting. -/
structure Takes (mention : Mention) : Prop where
  single : mention.setting.isList = false → mention.values.length ≤ 1
  plain : ∀ value ∈ mention.values, value.toList.head? ≠ some '-'

end Mention

namespace Item

variable {setting : Setting} {taker : Option Setting} {value : String} {words : List String}

theorem fromWords_name (setting : Setting) (taker : Option Setting) (words : List String) :
    fromWords taker (("--" ++ setting.name) :: words) =
      (fromWords (some setting) words).map (.name setting :: ·) := by
  have hne : "--" ++ setting.name ≠ "--" := by cases setting <;> decide
  have hoption : isOption ("--" ++ setting.name).toList = true := by cases setting <;> decide
  have hmeaning : meaning ("--" ++ setting.name).toList = .opens setting := by
    cases setting <;> decide
  rw [fromWords.eq_def]
  simp only [hne, hoption, hmeaning, if_false, if_true]

theorem fromWords_value (h : value.toList.head? ≠ some '-') (words : List String) :
    fromWords (some setting) (value :: words) =
      (fromWords (if setting.isList then some setting else none) words).map
        (.value setting value :: ·) := by
  have hne : value ≠ "--" := by
    rintro rfl
    exact h rfl
  have hoption : isOption value.toList = false := by simp [isOption, h]
  rw [fromWords.eq_def]
  simp only [hne, hoption, if_false, Bool.false_eq_true]

/-- The values of a setting, before words that are read in the same way after any setting. -/
theorem fromWords_values {values : List String} {items : List Item}
    (hsingle : setting.isList = false → values.length ≤ 1)
    (hplain : ∀ value ∈ values, value.toList.head? ≠ some '-')
    (hwords : ∀ taker, fromWords taker words = .ok items) :
    fromWords (some setting) (values ++ words) = .ok (values.map (.value setting) ++ items) := by
  induction values with
  | nil => exact hwords _
  | cons value values ih =>
    rw [List.forall_mem_cons] at hplain
    rw [List.cons_append, fromWords_value hplain.1]
    cases hlist : setting.isList with
    | true =>
      rw [if_pos rfl, ih (by simp [hlist]) hplain.2]
      rfl
    | false =>
      obtain rfl : values = [] := by
        have hlength := hsingle hlist
        rw [List.length_cons] at hlength
        exact List.length_eq_zero_iff.1 (by omega)
      rw [if_neg Bool.false_ne_true, List.nil_append, hwords]
      rfl

/-- **The words of mentions are told apart** into what they say. -/
theorem fromWords_mentions {mentions : List Mention} (h : ∀ mention ∈ mentions, mention.Takes)
    (taker : Option Setting) :
    fromWords taker (mentions.flatMap Mention.words) = .ok (mentions.flatMap Mention.items) := by
  induction mentions generalizing taker with
  | nil => rfl
  | cons mention mentions ih =>
    rw [List.forall_mem_cons] at h
    rw [List.flatMap_cons, Mention.words, List.cons_append, fromWords_name,
      fromWords_values h.1.single h.1.plain (ih h.2)]
    rfl

/-- The values of a setting are those of its mentions, in order. -/
theorem values_mentions (mentions : List Mention) (setting : Setting) :
    values (mentions.flatMap Mention.items) setting =
      mentions.flatMap (Mention.valuesFor setting) := by
  rw [values, List.filterMap_flatMap]
  congr 1
  funext mention
  simp only [Mention.items, Mention.valuesFor, List.filterMap_cons, valueFor?, List.filterMap_map]
  split
  · rename_i h
    simp [valueFor?, h]
  · rename_i h
    simp [valueFor?, h]

theorem count_mentions (mentions : List Mention) (setting : Setting) :
    Item.mentions (mentions.flatMap Mention.items) setting =
      (mentions.map Mention.setting).count setting := by
  have hvalues : ∀ mention : Mention,
      (mention.values.map (Item.value mention.setting)).count (.name setting) = 0 := fun mention =>
    List.count_eq_zero.2 (by simp)
  unfold Item.mentions
  induction mentions with
  | nil => rfl
  | cons mention mentions ih =>
    rw [List.flatMap_cons, List.count_append, ih, Mention.items, List.count_cons, hvalues,
      List.map_cons, List.count_cons]
    simp [Nat.add_comm]

end Item

/-! ## Judging -/

namespace Arguments

variable {items : List Item} {settings : List Setting} {setting : Setting} {values : List String}
  {text : String} {refusal : Refusal}

theorem judgeValue_of_mem {names : List String} (ha : setting.accepted? = some names)
    (hm : text ∈ names) : judgeValue setting text = .ok () := by
  unfold judgeValue
  simp only [ha]
  exact if_pos hm

theorem judgeValue_of_not_mem {names : List String} (ha : setting.accepted? = some names)
    (hm : text ∉ names) : judgeValue setting text = .error (.invalidValue setting text) := by
  unfold judgeValue
  simp only [ha]
  exact if_neg hm

theorem judgeValues_eq_ok (h : ∀ value ∈ values, judgeValue setting value = .ok ()) :
    judgeValues setting values = .ok () := by
  induction values with
  | nil => rfl
  | cons value values ih =>
    rw [List.forall_mem_cons] at h
    rw [judgeValues, h.1]
    exact ih h.2

/-- A wrong value is complained about if it is the only one. -/
theorem judgeValues_eq_error (h : ∀ value ∈ values, judgeValue setting value = .ok () ∨ value = text)
    (hm : text ∈ values) (ht : judgeValue setting text = .error refusal) :
    judgeValues setting values = .error refusal := by
  induction values with
  | nil => cases hm
  | cons value values ih =>
    rw [List.forall_mem_cons] at h
    by_cases hvalue : value = text
    · rw [judgeValues, hvalue, ht]
    · rw [judgeValues, h.1.resolve_right hvalue]
      exact ih h.2 ((List.mem_cons.1 hm).resolve_left (Ne.symm hvalue))

theorem judgeAll_eq_ok (h : ∀ setting ∈ settings, judge items setting = .ok ()) :
    judgeAll items settings = .ok () := by
  induction settings with
  | nil => rfl
  | cons setting settings ih =>
    rw [List.forall_mem_cons] at h
    rw [judgeAll, h.1]
    exact ih h.2

/-- A setting is complained about if it is the only one that is wrong. -/
theorem judgeAll_eq_error (h : ∀ other ∈ settings, judge items other = .ok () ∨ other = setting)
    (hm : setting ∈ settings) (hs : judge items setting = .error refusal) :
    judgeAll items settings = .error refusal := by
  induction settings with
  | nil => cases hm
  | cons other settings ih =>
    rw [List.forall_mem_cons] at h
    by_cases hother : other = setting
    · rw [judgeAll, hother, hs]
    · rw [judgeAll, h.1.resolve_right hother]
      exact ih h.2 ((List.mem_cons.1 hm).resolve_left (Ne.symm hother))

/-- What is given counts. -/
theorem settled_of_ne_nil (h : Item.values items setting ≠ []) :
    settled items setting = Item.values items setting := if_neg h

/-- What is given counts also where there is no default. -/
theorem settled_of_default?_eq_none (h : setting.default? = none) :
    settled items setting = Item.values items setting := by
  unfold settled
  split
  · rename_i hnone
    rw [h, hnone]
    rfl
  · rfl

/-- The first value that is given counts, or else the default. -/
theorem head?_settled (items : List Item) (setting : Setting) :
    (settled items setting).head? = (Item.values items setting).head?.or setting.default? := by
  unfold settled
  split
  · rename_i hnone
    rw [hnone]
    cases setting.default? <;> rfl
  · rename_i hne
    obtain ⟨value, values, hvalues⟩ := List.exists_cons_of_ne_nil hne
    rw [hvalues]
    rfl

/-- What is said of a setting is in order if its values are, and they are there, and it is named
once unless it is a list. -/
theorem judge_eq_ok (hfilled : Item.mentions items setting ≠ 0 → Item.values items setting ≠ [])
    (honce : setting.isList = false → Item.mentions items setting ≤ 1)
    (hvalues : ∀ value ∈ Item.values items setting, judgeValue setting value = .ok ()) :
    judge items setting = .ok () := by
  unfold judge
  split
  · rfl
  · rename_i hnamed
    have hne := hfilled hnamed
    rw [settled_of_ne_nil hne, if_neg hne, judgeValues_eq_ok hvalues]
    refine if_neg fun hrepeated => ?_
    have hcount := honce hrepeated.2
    omega

theorem judge_eq_error (hnamed : Item.mentions items setting ≠ 0)
    (hvalues : ∀ value ∈ Item.values items setting,
      judgeValue setting value = .ok () ∨ value = text)
    (hm : text ∈ Item.values items setting) (ht : judgeValue setting text = .error refusal) :
    judge items setting = .error refusal := by
  have hne : Item.values items setting ≠ [] := List.ne_nil_of_mem hm
  rw [judge, if_neg hnamed, settled_of_ne_nil hne, if_neg hne, judgeValues_eq_error hvalues hm ht]

end Arguments

/-! ## Lines -/

/-- Mentions that can stand in one line: each has a value, and a setting that is no list is named
at most once. -/
structure WellPut (mentions : List Mention) : Prop where
  takes : ∀ mention ∈ mentions, mention.Takes
  filled : ∀ mention ∈ mentions, mention.values ≠ []
  once : ∀ setting : Setting, setting.isList = false →
    (mentions.map Mention.setting).count setting ≤ 1

namespace WellPut

variable {mentions : List Mention} {setting : Setting} {text : String} {refusal : Refusal}

theorem mem_values_iff : text ∈ Item.values (mentions.flatMap Mention.items) setting ↔
    ∃ mention ∈ mentions, mention.setting = setting ∧ text ∈ mention.values := by
  rw [Item.values_mentions, List.mem_flatMap]
  refine exists_congr fun mention => and_congr_right fun _ => ?_
  unfold Mention.valuesFor
  split
  · rename_i hs
    simp [hs]
  · rename_i hs
    simp [hs]

/-- A setting that is named has a value. -/
theorem values_ne_nil (h : WellPut mentions)
    (hnamed : Item.mentions (mentions.flatMap Mention.items) setting ≠ 0) :
    Item.values (mentions.flatMap Mention.items) setting ≠ [] := by
  rw [Item.count_mentions] at hnamed
  obtain ⟨mention, hm, rfl⟩ := List.mem_map.1 (List.count_pos_iff.1 (Nat.pos_of_ne_zero hnamed))
  obtain ⟨value, hvalue⟩ := List.exists_mem_of_ne_nil _ (h.filled mention hm)
  exact List.ne_nil_of_mem (mem_values_iff.2 ⟨mention, hm, rfl, hvalue⟩)

/-- What is said of a setting is in order if its values are. -/
theorem judge_eq_ok (h : WellPut mentions)
    (hvalues : ∀ mention ∈ mentions, mention.setting = setting →
      ∀ value ∈ mention.values, Arguments.judgeValue setting value = .ok ()) :
    Arguments.judge (mentions.flatMap Mention.items) setting = .ok () := by
  refine Arguments.judge_eq_ok h.values_ne_nil (fun hlist => ?_) fun value hm => ?_
  · rw [Item.count_mentions]
    exact h.once setting hlist
  · obtain ⟨mention, hmention, hs, hvalue⟩ := mem_values_iff.1 hm
    exact hvalues mention hmention hs value hvalue

/-- **A line of accepted values is read** as its items say. -/
theorem parse_eq_ok (h : WellPut mentions)
    (hvalues : ∀ mention ∈ mentions, ∀ value ∈ mention.values,
      Arguments.judgeValue mention.setting value = .ok ()) :
    Arguments.parse (mentions.flatMap Mention.words) =
      .ok (Arguments.ofItems (mentions.flatMap Mention.items)) := by
  have hjudged : Arguments.judgeAll (mentions.flatMap Mention.items) Setting.all = .ok () := by
    refine Arguments.judgeAll_eq_ok fun setting _ => h.judge_eq_ok fun mention hm hs => ?_
    rw [← hs]
    exact hvalues mention hm
  rw [Arguments.parse, Item.ofWords, Item.fromWords_mentions h.takes]
  simp only [hjudged]

/-- **A wrong value is complained about** if no other text is wrong. -/
theorem parse_eq_error (h : WellPut mentions)
    (hvalues : ∀ mention ∈ mentions, ∀ value ∈ mention.values,
      Arguments.judgeValue mention.setting value = .ok () ∨
        mention.setting = setting ∧ value = text)
    (hwrong : ∃ mention ∈ mentions, mention.setting = setting ∧ text ∈ mention.values)
    (ht : Arguments.judgeValue setting text = .error refusal) :
    Arguments.parse (mentions.flatMap Mention.words) = .error refusal := by
  have hsetting : Arguments.judge (mentions.flatMap Mention.items) setting = .error refusal := by
    refine Arguments.judge_eq_error ?_ (fun value hm => ?_) (mem_values_iff.2 hwrong) ht
    · obtain ⟨mention, hm, rfl, -⟩ := hwrong
      rw [Item.count_mentions]
      exact Nat.ne_of_gt (List.count_pos_iff.2 (List.mem_map_of_mem hm))
    · obtain ⟨mention, hmention, rfl, hvalue⟩ := mem_values_iff.1 hm
      exact (hvalues mention hmention value hvalue).imp_right And.right
  have hjudged : Arguments.judgeAll (mentions.flatMap Mention.items) Setting.all =
      .error refusal := by
    refine Arguments.judgeAll_eq_error (fun other _ => ?_) (Setting.mem_all setting) hsetting
    by_cases hother : other = setting
    · exact .inr hother
    · refine .inl (h.judge_eq_ok fun mention hm hs value hvalue => ?_)
      rw [← hs]
      refine (hvalues mention hm value hvalue).resolve_right fun ⟨hw, _⟩ => ?_
      exact hother (hs.symm.trans hw)
  rw [Arguments.parse, Item.ofWords, Item.fromWords_mentions h.takes]
  simp only [hjudged]

end WellPut

/-! ## Lines that are read back -/

/-- A dependency root that can be given: a path that does not begin like an option. -/
structure GivenRoot where
  path : Files.Path
  plain : path.text.toList.head? ≠ some '-'

/-- What a line can say about one setting in one place. -/
inductive Clause
  | platform (chosen : Platform)
  | arch (first : Backend) (more : List Backend)
  | project (first : Project) (more : List Project)
  | root (given : GivenRoot)
  | jobs (number : JobCount)

namespace Clause

/-- The setting and its values in words. -/
def mention : Clause → Mention
  | .platform chosen => ⟨.platform, [Choice.name chosen]⟩
  | .arch first more => ⟨.arch, (first :: more).map Choice.name⟩
  | .project first more => ⟨.project, (first :: more).map Choice.name⟩
  | .root given => ⟨.depsDirectory, [given.path.text]⟩
  | .jobs number => ⟨.jobs, [toString number.count]⟩

/-- The backends that are asked for. -/
def backends : Clause → List Backend
  | .arch first more => first :: more
  | _ => []

/-- The projects that are asked for. -/
def projects : Clause → List Project
  | .project first more => first :: more
  | _ => []

/-- The dependency root that is asked for. -/
def root? : Clause → Option Files.Path
  | .root given => some given.path
  | _ => none

/-- The number of jobs that is asked for. -/
def jobs? : Clause → Option JobCount
  | .jobs number => some number
  | _ => none

theorem values_ne_nil (clause : Clause) : clause.mention.values ≠ [] := by
  cases clause <;> simp [mention]

/-- No value looks like an option. -/
theorem plain {clause : Clause} {value : String} (h : value ∈ clause.mention.values) :
    value.toList.head? ≠ some '-' := by
  cases clause with
  | platform chosen =>
    obtain rfl := List.mem_singleton.1 h
    cases chosen
    decide
  | arch first more =>
    obtain ⟨backend, -, rfl⟩ := List.mem_map.1 h
    cases backend <;> decide
  | project first more =>
    obtain ⟨project, -, rfl⟩ := List.mem_map.1 h
    cases project <;> decide
  | root given =>
    obtain rfl := List.mem_singleton.1 h
    exact given.plain
  | jobs number =>
    obtain rfl := List.mem_singleton.1 h
    intro hhead
    exact absurd (Text.Numeral.isDigit_of_mem_toString (List.mem_of_head? hhead)) (by decide)

/-- Every value is accepted. -/
theorem judgeValue_eq_ok {clause : Clause} {value : String} (h : value ∈ clause.mention.values) :
    Arguments.judgeValue clause.mention.setting value = .ok () := by
  cases clause with
  | platform chosen =>
    obtain rfl := List.mem_singleton.1 h
    cases chosen
    decide
  | arch first more =>
    obtain ⟨backend, -, rfl⟩ := List.mem_map.1 h
    exact Arguments.judgeValue_of_mem rfl (by cases backend <;> decide)
  | project first more =>
    obtain ⟨project, -, rfl⟩ := List.mem_map.1 h
    exact Arguments.judgeValue_of_mem rfl (by cases project <;> decide)
  | root given => rfl
  | jobs number =>
    obtain rfl := List.mem_singleton.1 h
    simp only [mention, Arguments.judgeValue, Setting.accepted?, JobCount.read_toString]

theorem takes_of_length {clause : Clause} {values : List String}
    (hlength : values.length = clause.mention.values.length)
    (hplain : ∀ value ∈ values, value.toList.head? ≠ some '-') :
    Mention.Takes ⟨clause.mention.setting, values⟩ where
  single := by
    intro hlist
    rw [hlength]
    cases clause with
    | platform chosen => exact Nat.le_refl 1
    | arch first more => cases hlist
    | project first more => cases hlist
    | root given => exact Nat.le_refl 1
    | jobs number => exact Nat.le_refl 1
  plain := hplain

end Clause

/-- A line: clauses in any order, of which those that are no lists stand in it at most once. -/
structure Line where
  clauses : List Clause
  once : ∀ setting : Setting, setting.isList = false →
    (clauses.map fun clause => clause.mention.setting).count setting ≤ 1

namespace Line

/-- The line in words. -/
def words (line : Line) : List String :=
  (line.clauses.map Clause.mention).flatMap Mention.words

/-- What the line asks for. -/
def arguments (line : Line) : Arguments where
  platform := .linux
  backends := line.clauses.flatMap Clause.backends
  projects := line.clauses.flatMap Clause.projects
  root := (line.clauses.findSome? Clause.root?).getD Provision.defaultRoot
  jobs := line.clauses.findSome? Clause.jobs?

theorem wellPut (line : Line) : WellPut (line.clauses.map Clause.mention) where
  takes := by
    intro mention hm
    obtain ⟨clause, -, rfl⟩ := List.mem_map.1 hm
    exact Clause.takes_of_length rfl fun value => Clause.plain
  filled := by
    intro mention hm
    obtain ⟨clause, -, rfl⟩ := List.mem_map.1 hm
    exact clause.values_ne_nil
  once := by
    intro setting hlist
    rw [List.map_map]
    exact line.once setting hlist

/-- The items of the line. -/
def items (line : Line) : List Item := (line.clauses.map Clause.mention).flatMap Mention.items

/-- The values of a setting are what its clauses give it. -/
theorem values_eq {α : Type} (line : Line) {setting : Setting} {given : Clause → List α}
    {text : α → String}
    (h : ∀ clause : Clause, clause.mention.valuesFor setting = (given clause).map text) :
    Item.values line.items setting = (line.clauses.flatMap given).map text := by
  rw [items, Item.values_mentions, List.flatMap_map, List.map_flatMap]
  congr 1
  funext clause
  exact h clause

/-- The members of a list are those of its clauses, one after the other. -/
theorem filterMap_settled {α : Type} [Choice α] (line : Line) {setting : Setting}
    {given : Clause → List α} (hnone : setting.default? = none)
    (hfind : ∀ member : α, Choice.find? α (Choice.name member) = some member)
    (h : ∀ clause : Clause, clause.mention.valuesFor setting = (given clause).map Choice.name) :
    (Arguments.settled line.items setting).filterMap (Choice.find? α) =
      line.clauses.flatMap given := by
  rw [Arguments.settled_of_default?_eq_none hnone, line.values_eq h, List.filterMap_map]
  simp [hfind]

/-- The value of a setting that is no list is that of its clause, or the default. -/
theorem head?_settled {α : Type} (line : Line) {setting : Setting} {given : Clause → Option α}
    {text : α → String}
    (h : ∀ clause : Clause, clause.mention.valuesFor setting = (given clause).toList.map text) :
    (Arguments.settled line.items setting).head? =
      ((line.clauses.findSome? given).map text).or setting.default? := by
  rw [Arguments.head?_settled, line.values_eq h, List.head?_map,
    ← List.filterMap_eq_flatMap_toList, List.head?_filterMap]

theorem backends_ofItems (line : Line) :
    (Arguments.ofItems line.items).backends = line.clauses.flatMap Clause.backends :=
  line.filterMap_settled rfl (fun backend => by cases backend <;> rfl) fun clause => by
    cases clause <;> simp [Mention.valuesFor, Clause.mention, Clause.backends]

theorem projects_ofItems (line : Line) :
    (Arguments.ofItems line.items).projects = line.clauses.flatMap Clause.projects :=
  line.filterMap_settled rfl (fun project => by cases project <;> rfl) fun clause => by
    cases clause <;> simp [Mention.valuesFor, Clause.mention, Clause.projects]

theorem root_ofItems (line : Line) : (Arguments.ofItems line.items).root =
    (line.clauses.findSome? Clause.root?).getD Provision.defaultRoot := by
  have hhead : (Arguments.settled line.items .depsDirectory).head? =
      ((line.clauses.findSome? Clause.root?).map Files.Path.text).or
        (some Provision.defaultRoot.text) :=
    line.head?_settled fun clause => by
      cases clause <;> simp [Mention.valuesFor, Clause.mention, Clause.root?]
  simp only [Arguments.ofItems, hhead]
  cases line.clauses.findSome? Clause.root? <;> rfl

theorem jobs_ofItems (line : Line) :
    (Arguments.ofItems line.items).jobs = line.clauses.findSome? Clause.jobs? := by
  have hhead : (Arguments.settled line.items .jobs).head? =
      ((line.clauses.findSome? Clause.jobs?).map fun number => toString number.count).or none :=
    line.head?_settled fun clause => by
      cases clause <;> simp [Mention.valuesFor, Clause.mention, Clause.jobs?]
  simp only [Arguments.ofItems, hhead, Option.or_none]
  cases line.clauses.findSome? Clause.jobs? with
  | none => rfl
  | some number =>
    simp only [Option.map_some, Option.bind_some, JobCount.read_toString]
    rfl

/-- **What the items of a line say** is what the line asks for. -/
theorem ofItems_eq (line : Line) : Arguments.ofItems line.items = line.arguments := by
  have hplatform : (Arguments.ofItems line.items).platform = .linux := by
    cases (Arguments.ofItems line.items).platform
    rfl
  rw [arguments, ← hplatform, ← line.backends_ofItems, ← line.projects_ofItems,
    ← line.root_ofItems, ← line.jobs_ofItems]

end Line

/-! ## Lines with a wrong value -/

/-- A line with a text in place of one value of a choice: the value at `index` in one of its
clauses.  The text does not look like an option and is not one of the values that are accepted
there. -/
structure Slip (line : Line) where
  before : List Clause
  clause : Clause
  after : List Clause
  clauses_eq : line.clauses = before ++ clause :: after
  index : Nat
  index_lt : index < clause.mention.values.length
  text : String
  plain : text.toList.head? ≠ some '-'
  names : List String
  accepted : clause.mention.setting.accepted? = some names
  wrong : text ∉ names

namespace Slip

variable {line : Line}

/-- The clause with the text in it. -/
def mention (slip : Slip line) : Mention :=
  ⟨slip.clause.mention.setting, slip.clause.mention.values.set slip.index slip.text⟩

/-- What the line then names. -/
def mentions (slip : Slip line) : List Mention :=
  slip.before.map Clause.mention ++ slip.mention :: slip.after.map Clause.mention

/-- The line with the text in it. -/
def words (slip : Slip line) : List String := slip.mentions.flatMap Mention.words

theorem mem_values {slip : Slip line} : slip.text ∈ slip.mention.values :=
  List.mem_set slip.index_lt slip.text

/-- The text stands in the clause, and everything else is as in the line. -/
theorem eq_or_mem {slip : Slip line} {mention : Mention} (h : mention ∈ slip.mentions) :
    mention = slip.mention ∨ ∃ clause : Clause, mention = clause.mention := by
  rcases List.mem_append.1 h with h | h
  · obtain ⟨clause, -, rfl⟩ := List.mem_map.1 h
    exact .inr ⟨clause, rfl⟩
  · rcases List.mem_cons.1 h with rfl | h
    · exact .inl rfl
    · obtain ⟨clause, -, rfl⟩ := List.mem_map.1 h
      exact .inr ⟨clause, rfl⟩

theorem map_setting (slip : Slip line) :
    slip.mentions.map Mention.setting = (line.clauses.map Clause.mention).map Mention.setting := by
  rw [slip.clauses_eq]
  simp [mentions, mention]

theorem wellPut (slip : Slip line) : WellPut slip.mentions where
  takes := by
    intro mention hm
    rcases eq_or_mem hm with rfl | ⟨clause, rfl⟩
    · refine Clause.takes_of_length (by simp) fun value hv => ?_
      rcases List.mem_or_eq_of_mem_set hv with hv | rfl
      · exact Clause.plain hv
      · exact slip.plain
    · exact Clause.takes_of_length rfl fun value => Clause.plain
  filled := by
    intro mention hm
    rcases eq_or_mem hm with rfl | ⟨clause, rfl⟩
    · exact List.ne_nil_of_mem mem_values
    · exact clause.values_ne_nil
  once := by
    intro setting hlist
    rw [map_setting]
    exact line.wellPut.once setting hlist

end Slip

/-- **A line is read back**, whatever the order of its clauses, and if a value of a choice in it is
wrong, that is complained about. -/
theorem parse_line (line : Line) :
    Arguments.parse line.words = .ok line.arguments ∧
      ∀ slip : Slip line, Arguments.parse slip.words =
        .error (.invalidValue slip.clause.mention.setting slip.text) := by
  refine ⟨?_, fun slip => slip.wellPut.parse_eq_error (fun mention hm value hv => ?_)
    ⟨slip.mention, List.mem_append_right _ List.mem_cons_self, rfl, Slip.mem_values⟩
    (Arguments.judgeValue_of_not_mem slip.accepted slip.wrong)⟩
  · rw [← line.ofItems_eq]
    refine line.wellPut.parse_eq_ok fun mention hm value hv => ?_
    obtain ⟨clause, -, rfl⟩ := List.mem_map.1 hm
    exact Clause.judgeValue_eq_ok hv
  · rcases Slip.eq_or_mem hm with rfl | ⟨clause, rfl⟩
    · rcases List.mem_or_eq_of_mem_set hv with hv | rfl
      · exact .inl (Clause.judgeValue_eq_ok hv)
      · exact .inr ⟨rfl, rfl⟩
    · exact .inl (Clause.judgeValue_eq_ok hv)

/-- A line in which both lists are named twice, with every other setting between them. -/
def interleaved : Line where
  clauses :=
    [.project .lldb [.clang], .arch .x86 [.riscv], .jobs ⟨12, by decide, by decide⟩,
      .root ⟨⟨"deps dir"⟩, by decide⟩, .arch .x86 [], .platform .linux, .project .clang []]
  once := by
    intro setting hlist
    cases setting with
    | platform => decide
    | arch => cases hlist
    | project => cases hlist
    | depsDirectory => decide
    | jobs => decide

/-- The line with a backend that there is none of, behind one that there is. -/
def misspelt : Slip interleaved where
  before := interleaved.clauses.take 1
  clause := .arch .x86 [.riscv]
  after := interleaved.clauses.drop 2
  clauses_eq := rfl
  index := 1
  index_lt := by decide
  text := "riscv"
  plain := by decide
  names := Choice.names Backend
  accepted := rfl
  wrong := by decide

/-- The interleaved line is read back with the lists put together, and misspelt it is not read. -/
theorem parse_line_interleaved :
    interleaved.words =
      ["--project", "lldb", "clang", "--arch", "X86", "RISCV", "--jobs", "12",
        "--deps-directory", "deps dir", "--arch", "X86", "--platform", "linux",
        "--project", "clang"] ∧
    interleaved.arguments =
      { platform := .linux
        backends := [.x86, .riscv, .x86]
        projects := [.lldb, .clang, .clang]
        root := ⟨"deps dir"⟩
        jobs := some ⟨12, by decide, by decide⟩ } ∧
    Arguments.parse interleaved.words = .ok interleaved.arguments ∧
    misspelt.words =
      ["--project", "lldb", "clang", "--arch", "X86", "riscv", "--jobs", "12",
        "--deps-directory", "deps dir", "--arch", "X86", "--platform", "linux",
        "--project", "clang"] ∧
    Arguments.parse misspelt.words = .error (.invalidValue .arch "riscv") := by
  obtain ⟨hread, hwrong⟩ := parse_line interleaved
  exact ⟨by decide, rfl, hread, by decide, hwrong misspelt⟩

end LlvmProvision.CommandLine
