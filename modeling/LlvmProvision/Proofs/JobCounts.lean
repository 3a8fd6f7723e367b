import LlvmProvision.Proofs.CommandLines
import LlvmProvision.Proofs.Conclusion
import LlvmProvision.Proofs.FailedBuilds
import LlvmProvision.Proofs.Resumption

/-!
# The number of jobs

The number of jobs is given as a numeral, and in the end it is told to the command that builds the
package, as a numeral again.  This module follows it from the one to the other.

* A text is accepted exactly if it is a numeral of a number in range (`readBelow_eq_ok_iff`): the
  reader gives up as soon as the digits so far have reached the limit, which is no loss, since
  further digits never make the value smaller.
* An accepted command line gives at most one such text, and the run is made with its number, or
  else with one job for each processor (`asks_of_parse`).
* The command is told the number in its shortest form (`IsShortest`), whatever signs and zeros it
  was given with.

So no accepted line has the package built with no jobs at all, or with another number than it says
(`jobs_told`).
-/
namespace LlvmProvision

open Files Tools

namespace Text.Numeral

variable {limit start n d : Nat} {c : Char} {cs : List Char} {text : String}

/-- **The text is a numeral of the number**: perhaps a plus sign, and then decimal digits, at least
one and any number of them zeros in front. -/
def Denotes (text : String) (n : Nat) : Prop :=
  ∃ digits : List Char, digits ≠ [] ∧ (∀ c ∈ digits, c.isDigit = true) ∧
    (text.toList = digits ∨ text.toList = '+' :: digits) ∧ Nat.ofDigitChars 10 digits 0 = n

/-- **The shortest numeral of the number**: digits only, and no zero in front. -/
structure IsShortest (text : String) (n : Nat) : Prop where
  digits : ∀ c ∈ text.toList, c.isDigit = true
  unpadded : ∃ c ∈ text.toList.head?, c ≠ '0'
  value : Nat.ofDigitChars 10 text.toList 0 = n

theorem digit?_eq_some_iff : digit? c = some d ↔ c.isDigit = true ∧ c.toNat - '0'.toNat = d := by
  have hdigit : c.isDigit = true ↔ '0' ≤ c ∧ c ≤ '9' := by
    simp [Char.isDigit, Char.le_def]
  rw [digit?, hdigit]
  split
  · rename_i h
    simp [h]
  · rename_i h
    simp [h]

/-- More digits never make a value smaller. -/
theorem le_ofDigitChars (cs : List Char) (start : Nat) : start ≤ Nat.ofDigitChars 10 cs start := by
  induction cs generalizing start with
  | nil => exact Nat.le_refl start
  | cons c cs ih =>
    rw [Nat.ofDigitChars_cons]
    have htail := ih (10 * start + (c.toNat - '0'.toNat))
    omega

/-- Digits are read exactly if there is nothing else and their value stays below the limit. -/
theorem readDigits_eq_ok_iff (hs : start < limit) : readDigits limit start cs = .ok n ↔
    (∀ c ∈ cs, c.isDigit = true) ∧ Nat.ofDigitChars 10 cs start = n ∧ n < limit := by
  induction cs generalizing start with
  | nil =>
    simp only [readDigits, Except.ok.injEq, Nat.ofDigitChars_nil, List.not_mem_nil, false_imp_iff,
      implies_true, true_and]
    constructor
    · rintro rfl
      exact ⟨rfl, hs⟩
    · exact And.left
  | cons c cs ih =>
    rw [readDigits, Nat.ofDigitChars_cons, List.forall_mem_cons]
    cases hc : digit? c with
    | none =>
      have hno : c.isDigit ≠ true := fun hd => by
        rw [digit?_eq_some_iff.2 ⟨hd, rfl⟩] at hc
        cases hc
      simp [hno]
    | some d =>
      obtain ⟨hd, rfl⟩ := digit?_eq_some_iff.1 hc
      simp only [hd, true_and]
      split
      · rename_i hlt
        exact ih hlt
      · -- the value has reached the limit already
        rename_i hge
        have hle := le_ofDigitChars cs (10 * start + (c.toNat - '0'.toNat))
        simp only [reduceCtorEq, false_iff]
        rintro ⟨-, rfl, hlt⟩
        exact hge (Nat.lt_of_le_of_lt hle hlt)

/-- **A text is read exactly if it is a numeral of a number below the limit.** -/
theorem readBelow_eq_ok_iff (hl : 0 < limit) :
    readBelow limit text = .ok n ↔ Denotes text n ∧ n < limit := by
  have hplus : ¬ '+'.isDigit = true := by decide
  unfold readBelow Denotes
  split
  · rename_i hempty
    simp only [reduceCtorEq, hempty, false_iff]
    rintro ⟨⟨digits, hne, -, hd | hd, -⟩, -⟩
    · exact hne hd.symm
    · cases hd
  · rename_i hsign
    simp only [reduceCtorEq, hsign, false_iff]
    rintro ⟨⟨digits, hne, hdigits, hd | hd, -⟩, -⟩
    · exact hplus (hdigits '+' (by simp [← hd]))
    · exact hne (List.cons.inj hd).2.symm
  · rename_i digits hne hsigned
    rw [readDigits_eq_ok_iff hl, hsigned]
    constructor
    · rintro ⟨hdigits, hvalue, hlt⟩
      exact ⟨⟨digits, fun he => hne he, hdigits, .inr rfl, hvalue⟩, hlt⟩
    · rintro ⟨⟨others, -, hdigits, hd | hd, hvalue⟩, hlt⟩
      · exact absurd (hdigits '+' (by simp [← hd])) hplus
      · obtain ⟨-, rfl⟩ := List.cons.inj hd
        exact ⟨hdigits, hvalue, hlt⟩
  · rename_i hne hunsigned hsigned
    rw [readDigits_eq_ok_iff hl]
    constructor
    · rintro ⟨hdigits, hvalue, hlt⟩
      exact ⟨⟨text.toList, hne, hdigits, .inl rfl, hvalue⟩, hlt⟩
    · rintro ⟨⟨digits, -, hdigits, hd | hd, hvalue⟩, hlt⟩
      · exact ⟨hd ▸ hdigits, hd ▸ hvalue, hlt⟩
      · exact absurd hd (hsigned _)

/-- The first digit of a positive number is not zero. -/
theorem exists_head?_toDigits (hn : 0 < n) : ∃ c ∈ (Nat.toDigits 10 n).head?, c ≠ '0' := by
  induction n using Nat.strongRecOn with
  | _ n ih =>
    by_cases hlt : n < 10
    · have hall : ∀ d < 10, 0 < d → Nat.digitChar d ≠ '0' := by decide
      rw [Nat.toDigits_of_lt_base hlt]
      exact ⟨_, rfl, hall n hlt hn⟩
    · obtain ⟨c, hc, hne⟩ := ih (n / 10) (by omega) (by omega)
      rw [Nat.toDigits_of_base_le (by decide) (by omega), List.head?_append, hc]
      exact ⟨c, rfl, hne⟩

/-- **A positive number is told in its shortest form.** -/
theorem isShortest_toString (hn : 0 < n) : IsShortest (toString n) n where
  digits := fun _ => isDigit_of_mem_toString
  unpadded := by
    rw [toList_toString]
    exact exists_head?_toDigits hn
  value := by rw [toList_toString, Nat.ofDigitChars_toDigits (by decide) (by decide)]

/-- A text is the numeral of one number at most. -/
theorem Denotes.unique {m : Nat} (hn : Denotes text n) (hm : Denotes text m) : n = m := by
  have hl : 0 < n + m + 1 := Nat.succ_pos _
  have hread := (readBelow_eq_ok_iff hl).2 ⟨hn, by omega⟩
  rw [(readBelow_eq_ok_iff hl).2 ⟨hm, by omega⟩] at hread
  exact (Except.ok.inj hread).symm

end Text.Numeral

open Text.Numeral

/-! ## Command lines with a number of jobs -/

namespace CommandLine

variable {text : String} {words : List String} {items : List Item} {setting : Setting}

/-- The numbers that can be given are those from one up to the limit. -/
theorem JobCount.read_eq_ok_iff {jobs : JobCount} :
    read text = .ok jobs ↔ Denotes text jobs.count := by
  have hlimit : 0 < jobsLimit := by decide
  have hiff : Text.Numeral.readBelow jobsLimit text = .ok jobs.count ↔
      Denotes text jobs.count ∧ jobs.count < jobsLimit := readBelow_eq_ok_iff hlimit
  unfold read
  split
  · rename_i fault hfault
    simp only [hfault, reduceCtorEq, jobs.lt_limit, and_true, false_iff] at hiff
    simp only [reduceCtorEq, hiff]
  · rename_i count hread
    constructor
    · intro h
      split at h
      · cases h
        exact ((readBelow_eq_ok_iff hlimit).1 hread).1
      · cases h
    · intro hd
      have hcount := hiff.2 ⟨hd, jobs.lt_limit⟩
      rw [hread] at hcount
      cases hcount
      rw [dif_pos jobs.pos]

namespace Item

theorem exists_of_map_eq_ok {ε α β : Type} {result : Except ε α} {f : α → β} {value : β}
    (h : result.map f = .ok value) : ∃ inner, result = .ok inner ∧ f inner = value := by
  cases result with
  | error fault => cases h
  | ok inner => exact ⟨inner, rfl, Except.ok.inj h⟩

variable {named : Setting}

theorem values_cons_name : values (.name named :: items) setting = values items setting := rfl

theorem mentions_cons_name : mentions (.name named :: items) setting =
    mentions items setting + if named = setting then 1 else 0 := by
  simp [mentions, List.count_cons]

theorem length_values_cons_value : (values (.value named text :: items) setting).length =
    (values items setting).length + if named = setting then 1 else 0 := by
  by_cases hn : named = setting <;> simp [values, valueFor?, hn]

theorem mentions_cons_value :
    mentions (.value named text :: items) setting = mentions items setting := by
  simp [mentions]

/-- A setting that is no list has at most as many values as it has mentions, and one more if it is
already waiting for one. -/
theorem length_values_le (hs : setting.isList = false) {taker : Option Setting}
    (h : fromWords taker words = .ok items) : (values items setting).length ≤
      mentions items setting + if taker = some setting then 1 else 0 := by
  induction words generalizing taker items with
  | nil =>
    cases h
    exact Nat.zero_le _
  | cons word words ih =>
    rw [fromWords.eq_def] at h
    simp only at h
    split at h
    · split at h
      · cases h
        exact Nat.zero_le _
      · cases h
    · split at h
      · split at h
        · cases h
        · -- a setting whose value is to follow
          obtain ⟨rest, hrest, rfl⟩ := exists_of_map_eq_ok h
          have hle := ih hrest
          rw [values_cons_name, mentions_cons_name]
          grind
        · -- a setting with its value
          obtain ⟨rest, hrest, rfl⟩ := exists_of_map_eq_ok h
          have hle := ih hrest
          rw [values_cons_name, mentions_cons_name, length_values_cons_value, mentions_cons_value]
          grind
      · split at h
        · cases h
        · -- a value of the setting that is waiting for one, which then waits no more
          obtain ⟨rest, hrest, rfl⟩ := exists_of_map_eq_ok h
          have hle := ih hrest
          rw [length_values_cons_value, mentions_cons_value]
          grind

end Item

namespace Arguments

/-- **The number of jobs that the items ask for**: the one that is given, or else one for each
processor. -/
inductive Asks (processors : Nat) (items : List Item) : Nat → Prop
  | given {text : String} {n : Nat} : Item.values items .jobs = [text] → Denotes text n →
      n < jobsLimit → Asks processors items n
  | unsaid : Item.values items .jobs = [] → Asks processors items processors

/-- A single text asks for the number that it is a numeral of. -/
theorem Asks.eq_of_denotes {processors m n : Nat} (h : Asks processors items m)
    (hvalues : Item.values items .jobs = [text]) (hn : Denotes text n) : m = n := by
  cases h with
  | given hother hm _ =>
    rw [hvalues] at hother
    obtain ⟨rfl, -⟩ := List.cons.inj hother
    exact hm.unique hn
  | unsaid hnone =>
    rw [hvalues] at hnone
    cases hnone

/-- Each setting has been judged. -/
theorem judge_of_judgeAll {settings : List Setting} (h : judgeAll items settings = .ok ())
    (hm : setting ∈ settings) : judge items setting = .ok () := by
  induction settings with
  | nil => cases hm
  | cons other settings ih =>
    rw [judgeAll] at h
    split at h
    · rename_i hother
      rcases List.mem_cons.1 hm with rfl | hm
      · exact hother
      · exact ih h hm
    · cases h

/-- Of a setting without a default that is no list, there is no value, or a single one that has
been judged. -/
theorem values_of_judge (hw : Item.ofWords words = .ok items) (hs : setting.isList = false)
    (hd : setting.default? = none) (h : judge items setting = .ok ()) :
    Item.values items setting = [] ∨
      ∃ text, Item.values items setting = [text] ∧ judgeValue setting text = .ok () := by
  have hle := Item.length_values_le hs hw
  rw [if_neg (by simp), Nat.add_zero] at hle
  rw [judge, settled_of_default?_eq_none hd] at h
  cases hvalues : Item.values items setting with
  | nil => exact .inl rfl
  | cons text more =>
    rw [hvalues, List.length_cons] at hle
    rw [if_neg (by omega), hvalues, if_neg (by simp)] at h
    split at h
    · cases h
    · rename_i hjudged
      have honce : Item.mentions items setting ≤ 1 := by
        by_contra hmany
        rw [if_pos ⟨by omega, hs⟩] at h
        cases h
      obtain rfl : more = [] := List.length_eq_zero_iff.1 (by omega)
      refine .inr ⟨text, rfl, ?_⟩
      rw [judgeValues] at hjudged
      split at hjudged
      · rename_i htext
        exact htext
      · cases hjudged

/-- A number of jobs is accepted if it can be read. -/
theorem exists_read_of_judgeValue (h : judgeValue .jobs text = .ok ()) :
    ∃ jobs, JobCount.read text = .ok jobs := by
  simp only [judgeValue, Setting.accepted?] at h
  split at h
  · rename_i jobs hread
    exact ⟨jobs, hread⟩
  · cases h

theorem exists_items_of_parse {arguments : Arguments} (h : parse words = .ok arguments) :
    ∃ items, Item.ofWords words = .ok items ∧ judgeAll items Setting.all = .ok () ∧
      arguments = ofItems items := by
  rw [parse] at h
  split at h
  · cases h
  · rename_i items hitems
    split at h
    · cases h
    · rename_i hjudged
      exact ⟨items, hitems, hjudged, (Except.ok.inj h).symm⟩

/-- **A run is made with the number of jobs that its command line asks for.** -/
theorem asks_of_parse {arguments : Arguments} (processors : Nat) (h : parse words = .ok arguments) :
    ∃ items, Item.ofWords words = .ok items ∧
      Asks processors items (Program.request processors arguments).jobs := by
  obtain ⟨items, hitems, hjudged, rfl⟩ := exists_items_of_parse h
  have hjudge := judge_of_judgeAll hjudged (Setting.mem_all .jobs)
  have hsettled : settled items .jobs = Item.values items .jobs := settled_of_default?_eq_none rfl
  refine ⟨items, hitems, ?_⟩
  rcases values_of_judge hitems rfl rfl hjudge with hnone | ⟨text, htext, hvalue⟩
  · have hjobs : (ofItems items).jobs = none := by simp [ofItems, hsettled, hnone]
    rw [Program.request, hjobs]
    exact .unsaid hnone
  · obtain ⟨jobs, hread⟩ := exists_read_of_judgeValue hvalue
    have hjobs : (ofItems items).jobs = some jobs := by
      simp [ofItems, hsettled, htext, hread, Except.toOption]
    rw [Program.request, hjobs]
    exact .given htext (JobCount.read_eq_ok_iff.1 hread) jobs.lt_limit

/-- A number of jobs that was accepted is not zero. -/
theorem request_jobs_pos {processors : Nat} (hp : 0 < processors) (arguments : Arguments) :
    0 < (Program.request processors arguments).jobs := by
  rw [Program.request]
  cases arguments.jobs with
  | none => exact hp
  | some jobs => exact jobs.pos

theorem wellPut_jobs (hplain : text.toList.head? ≠ some '-') : WellPut [⟨.jobs, [text]⟩] where
  takes mention hm := by
    rw [List.mem_singleton.1 hm]
    exact ⟨fun _ => Nat.le_refl 1, by simpa using hplain⟩
  filled := by simp
  once setting _ := List.count_le_length

theorem words_jobs (text : String) :
    [(⟨.jobs, [text]⟩ : Mention)].flatMap Mention.words = ["--jobs", text] := rfl

theorem ofWords_jobs (hplain : text.toList.head? ≠ some '-') :
    Item.ofWords ["--jobs", text] = .ok [.name .jobs, .value .jobs text] :=
  Item.fromWords_mentions (wellPut_jobs hplain).takes none

/-- **A number alone is accepted** exactly if it is in range. -/
theorem parse_jobs_iff (hplain : text.toList.head? ≠ some '-') :
    (∃ arguments, parse ["--jobs", text] = .ok arguments) ↔
      ∃ n, Denotes text n ∧ 1 ≤ n ∧ n ≤ Nat.pow 2 64 - 1 := by
  have hput := wellPut_jobs hplain
  rw [← words_jobs text]
  cases hread : JobCount.read text with
  | ok jobs =>
    refine iff_of_true ⟨_, hput.parse_eq_ok ?_⟩
      ⟨jobs.count, JobCount.read_eq_ok_iff.1 hread, jobs.pos, Nat.le_sub_one_of_lt jobs.lt_limit⟩
    simp [judgeValue, Setting.accepted?, hread]
  | error fault =>
    refine iff_of_false ?_ ?_
    · rintro ⟨arguments, harguments⟩
      have hwrong : judgeValue .jobs text = .error (.invalidJobs fault) := by
        simp [judgeValue, Setting.accepted?, hread]
      rw [hput.parse_eq_error (by simp) (by simp) hwrong] at harguments
      cases harguments
    · rintro ⟨n, hn, hpos, hle⟩
      have hlt : n < jobsLimit := Nat.lt_of_le_sub_one (by decide) hle
      have hcount : JobCount.read text = .ok ⟨n, hpos, hlt⟩ := JobCount.read_eq_ok_iff.2 hn
      rw [hread] at hcount
      cases hcount

end Arguments

end CommandLine

/-! ## Calls that build the package -/

/-- **Every call that builds the package has the number of jobs in its shortest form**. -/
def BuildsWith (n : Nat) (made : List Made) : Prop :=
  ∀ call ∈ made, call.call.builds = true → ∃ command numeral,
    call.call = .run command ∧
    command.arguments = ["--build", ".", "--target", "package", "--parallel", numeral] ∧
    IsShortest numeral n

variable {n : Nat} {host : Host} {files left : Tree} {made more : List Made}

theorem buildsWith_of_tool {tool : String} (htool : tool ≠ "cmake")
    (h : ∀ call ∈ made, call.call.tool = tool) : BuildsWith n made := by
  intro call hc hb
  rw [Call.builds_eq_false (by rw [h call hc]; exact htool)] at hb
  cases hb

theorem BuildsWith.append (h : BuildsWith n made) (h' : BuildsWith n more) :
    BuildsWith n (made ++ more) := fun call hc =>
  (List.mem_append.1 hc).elim (h call) (h' call)

theorem builds_configureCommand (build : Path) (configuration : Configuration) :
    (Call.run (BuildTree.configureCommand build configuration)).builds = false := by
  have hhead : (BuildTree.configureCommand build configuration).arguments.head? =
      some "-DCMAKE_BUILD_TYPE:STRING=Debug" := rfl
  simp [Call.builds, hhead]

theorem BuildTree.Course.buildsWith {source : Path} {configuration : Configuration}
    {result : Except Error Path} (hn : 0 < n)
    (h : BuildTree.Course host source configuration n files result made left) :
    BuildsWith n made := by
  intro call hc hb
  have hplanned := h.follows.mem_scheduled hc
  rw [planned] at hplanned
  split at hplanned
  · cases hplanned
  · simp only [calls, List.mem_cons, List.not_mem_nil, or_false] at hplanned
    rcases hplanned with hcall | hcall | hcall
    · rw [hcall] at hb
      cases hb
    · rw [hcall, builds_configureCommand] at hb
      cases hb
    · exact ⟨_, _, hcall, rfl, isShortest_toString hn⟩

/-- Only the second stage of a run builds. -/
theorem Provision.Course.buildsWith {request : Request} {result : Except Error Unit}
    (hn : 0 < request.jobs)
    (h : Provision.Course host request files result made left) :
    BuildsWith request.jobs made := by
  cases h with
  | unfetched hf => exact buildsWith_of_tool (by decide) hf.tool_eq
  | unbuilt hf hb => exact (buildsWith_of_tool (by decide) hf.tool_eq).append (hb.buildsWith hn)
  | built hf hb hu =>
    exact ((buildsWith_of_tool (by decide) hf.tool_eq).append (hb.buildsWith hn)).append
      (buildsWith_of_tool (by decide) hu.tool_eq)

namespace Program

open CommandLine

variable {processors : Nat} {words : List String}

/-- The calls of the program are those of its run. -/
theorem made_run {arguments : Arguments} (h : Arguments.parse words = .ok arguments) :
    (run processors words host (.start files)).2.made =
      (Provision.run (request processors arguments) host (.start files)).2.made := by
  obtain ⟨hperform, hfits⟩ := perform_eq processors arguments host files
  simp only [run, h, hperform]
  exact (concludes_of_events hfits).made

theorem buildsWith_run (hp : 0 < processors) {arguments : Arguments}
    (h : Arguments.parse words = .ok arguments) :
    BuildsWith (request processors arguments).jobs
      (run processors words host (.start files)).2.made := by
  rw [made_run h]
  exact (Provision.course_iff.2 ⟨rfl, rfl, rfl⟩).buildsWith (Arguments.request_jobs_pos hp arguments)

/-- **The number of jobs is told as it was given.**  A number alone is accepted exactly if it is in
range, and then the command that builds the package is told that number; and whatever else is on an
accepted command line, the number that it asks for is told.  It never is zero, as there is at least
one processor. -/
theorem jobs_told (hp : 0 < processors) (host : Host) (files : Tree) :
    (∀ text : String, text.toList.head? ≠ some '-' →
      ((∃ arguments, Arguments.parse ["--jobs", text] = .ok arguments) ↔
        ∃ n, Denotes text n ∧ 1 ≤ n ∧ n ≤ Nat.pow 2 64 - 1) ∧
      ∀ n, Denotes text n → 1 ≤ n → n ≤ Nat.pow 2 64 - 1 →
        BuildsWith n (run processors ["--jobs", text] host (.start files)).2.made) ∧
    ∀ words arguments, Arguments.parse words = .ok arguments →
      ∃ items n, Item.ofWords words = .ok items ∧ Arguments.Asks processors items n ∧ 0 < n ∧
        BuildsWith n (run processors words host (.start files)).2.made := by
  constructor
  · refine fun text hplain => ⟨Arguments.parse_jobs_iff hplain, fun n hn hpos hle => ?_⟩
    obtain ⟨arguments, harguments⟩ := (Arguments.parse_jobs_iff hplain).2 ⟨n, hn, hpos, hle⟩
    obtain ⟨items, hitems, hasks⟩ := Arguments.asks_of_parse processors harguments
    rw [Arguments.ofWords_jobs hplain] at hitems
    cases hitems
    rw [← hasks.eq_of_denotes rfl hn]
    exact buildsWith_run hp harguments
  · intro words arguments h
    obtain ⟨items, hitems, hasks⟩ := Arguments.asks_of_parse processors h
    exact ⟨items, _, hitems, hasks, Arguments.request_jobs_pos hp arguments, buildsWith_run hp h⟩

/-- Sixteen jobs, however oddly they are asked for, are accepted, and a build in the workshop is made
with sixteen. -/
theorem jobs_told_rehearsed :
    let ended := run 8 ["--deps-directory", "deps", "--jobs", "+0016"] Provision.workshop.host
      (.start .empty)
    0 < 8 ∧ (∃ arguments, Arguments.parse ["--jobs", "+0016"] = .ok arguments) ∧
      BuildsWith 16 ended.2.made ∧ ∃ call ∈ ended.2.made, call.call.builds = true := by
  have hsixteen : Denotes "+0016" 16 :=
    ⟨['0', '0', '1', '6'], by simp, List.all_eq_true.1 (by decide), .inr rfl, by decide⟩
  obtain ⟨halone, htold⟩ := jobs_told (by decide : 0 < 8) Provision.workshop.host .empty
  obtain ⟨items, n, hitems, hasks, -, hbuilds⟩ :=
    htold ["--deps-directory", "deps", "--jobs", "+0016"] _ rfl
  cases hitems
  rw [hasks.eq_of_denotes rfl hsixteen] at hbuilds
  have haccepted := (halone "+0016" (by decide)).1.2 ⟨16, hsixteen, by decide, by decide⟩
  exact ⟨by decide, haccepted, hbuilds, by decide +kernel⟩

end Program

end LlvmProvision
