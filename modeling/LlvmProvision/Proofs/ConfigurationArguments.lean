import LlvmProvision.Configuration
import Mathlib.Data.List.Basic

/-!
# Reading the arguments of a build back

A build is configured by arguments, and these say all about it.  Each of them defines a variable
of its own (`nodup_names`) and can be read back (`read?_argument`).  The lists of backends and
projects are values of two of the variables: split at the semicolons they are the names of the
members, in order (`readAll_listValue`), and without projects there is no list of them.  So a
configuration is told by its arguments (`arguments_injective`).
-/
namespace LlvmProvision

open CMake Text

/-! ## Definitions -/

/-- Reading up to a character: it stands behind the first part, or nothing does. -/
theorem Text.takeWhile_ne {stop : Char} {front back : List Char} (hf : stop ∉ front)
    (hb : ∀ c ∈ back.head?, c = stop) :
    (front ++ back).takeWhile (· ≠ stop) = front ∧
      (front ++ back).dropWhile (· ≠ stop) = back := by
  have hfront : ∀ c ∈ front, decide (c ≠ stop) = true := by
    intro c hc
    rw [decide_eq_true_eq]
    rintro rfl
    exact hf hc
  rw [List.takeWhile_append_of_pos hfront, List.dropWhile_append_of_pos hfront]
  cases back with
  | nil => simp
  | cons c back =>
    obtain rfl := hb c rfl
    simp

namespace CMake.Definition

/-- A name that ends where the type or the value begins. -/
def IsPlain (name : String) : Prop := '=' ∉ name.toList ∧ ':' ∉ name.toList

instance (name : String) : Decidable (IsPlain name) := inferInstanceAs (Decidable (_ ∧ _))

theorem kindOf?_suffix (kind : Kind) : kindOf? kind.suffix.toList = some kind := by
  cases kind <;> decide

theorem not_mem_suffix (kind : Kind) : '=' ∉ kind.suffix.toList := by
  cases kind <;> decide

theorem head_suffix (kind : Kind) : ∀ c ∈ kind.suffix.toList.head?, c = ':' := by
  cases kind <;> simp [Kind.suffix]

theorem switch_inj {name : String} {first second : Bool}
    (h : switch name first = switch name second) : first = second := by
  cases first with
  | true => cases second with
    | true => rfl
    | false => simp [switch] at h
  | false => cases second with
    | true => simp [switch] at h
    | false => rfl

/-- The value stands behind what the name and the type begin an argument with. -/
theorem argument_eq {name front : String} {kind : Kind}
    (h : "-D" ++ name ++ kind.suffix ++ "=" = front) (value : String) :
    argument ⟨name, kind, value⟩ = front ++ value :=
  congrArg (· ++ value) h

/-- **A definition is read back from its argument.** -/
theorem read?_argument {definition : Definition} (h : IsPlain definition.name) :
    read? definition.argument = some definition := by
  obtain ⟨name, kind, value⟩ := definition
  obtain ⟨hequals, hcolon⟩ := h
  have htext : (argument ⟨name, kind, value⟩).toList =
      '-' :: 'D' :: ((name.toList ++ kind.suffix.toList) ++ '=' :: value.toList) := by
    simp [argument]
  have hfront : '=' ∉ name.toList ++ kind.suffix.toList := by
    rw [List.mem_append]
    exact not_or.2 ⟨hequals, not_mem_suffix kind⟩
  have hback : ∀ c ∈ ('=' :: value.toList).head?, c = '=' := fun c hc => (Option.some.inj hc).symm
  obtain ⟨hhead, hvalue⟩ := takeWhile_ne hfront hback
  obtain ⟨hname, hkind⟩ := takeWhile_ne hcolon (head_suffix kind)
  simp only [read?, htext, hhead, hvalue, hname, hkind, kindOf?_suffix, Option.map_some,
    String.ofList_toList]

end CMake.Definition

/-! ## Lists of choices -/

/-- Names that were listed are read back. -/
theorem Choice.readAll_names {α : Type} [Choice α]
    (hread : ∀ member : α, read α (name member) = .ok member) (members : List α) :
    readAll α (members.map name) = .ok members := by
  induction members with
  | nil => rfl
  | cons member members ih =>
    rw [List.map_cons, readAll, hread, ih]
    rfl

namespace Configuration

variable {configuration : Configuration} {backends : List Backend} {projects : List Project}

/-- **A list of choices is read back from its value.** -/
theorem readAll_listValue {α : Type} [Choice α]
    (hread : ∀ member : α, Choice.read α (Choice.name member) = .ok member)
    (hfree : ∀ member : α, ';' ∉ (Choice.name member).toList) {members : List α}
    (hne : members ≠ []) :
    Choice.readAll α (fields ';' (listValue members)) = .ok members := by
  have hparts : fields ';' (listValue members) = members.map Choice.name := by
    refine fields_joined (by simpa using hne) fun part hp => ?_
    obtain ⟨member, -, rfl⟩ := List.mem_map.1 hp
    exact hfree member
  rw [hparts, Choice.readAll_names hread]

theorem readAll_backends (hne : backends ≠ []) :
    Choice.readAll Backend (fields ';' (listValue backends)) = .ok backends :=
  readAll_listValue Backend.read_name (fun backend => by cases backend <;> decide) hne

theorem readAll_projects (hne : projects ≠ []) :
    Choice.readAll Project (fields ';' (listValue projects)) = .ok projects :=
  readAll_listValue Project.read_name (fun project => by cases project <;> decide) hne

/-! ## The arguments -/

/-- The variables that are defined, in order. -/
theorem map_name_definitions : configuration.definitions.map Definition.name =
    baseline.map Definition.name ++ ["LLVM_ENABLE_LIBXML2", "LLVM_TARGETS_TO_BUILD"] ++
      if configuration.projects = [] then [] else ["LLVM_ENABLE_PROJECTS"] := by
  unfold definitions projectsDefinition?
  split <;> simp [libxml2Definition, targetsDefinition, Definition.switch]

theorem isPlain_of_mem_definitions {definition : Definition}
    (h : definition ∈ configuration.definitions) : Definition.IsPlain definition.name := by
  have hall : ∀ name ∈ baseline.map Definition.name ++
      ["LLVM_ENABLE_LIBXML2", "LLVM_TARGETS_TO_BUILD"] ++ ["LLVM_ENABLE_PROJECTS"],
      Definition.IsPlain name := by
    decide +kernel
  have hname := List.mem_map_of_mem (f := Definition.name) h
  rw [map_name_definitions] at hname
  refine hall _ (List.mem_append.2 ((List.mem_append.1 hname).imp_right fun hlast => ?_))
  split at hlast
  · cases hlast
  · exact hlast

/-- **All arguments are read back** as the definitions that were written. -/
theorem map_read?_arguments (configuration : Configuration) :
    configuration.arguments.map Definition.read? = configuration.definitions.map some := by
  rw [arguments, List.map_map]
  exact List.map_congr_left fun definition h =>
    Definition.read?_argument (isPlain_of_mem_definitions h)

/-- **No variable is defined twice.** -/
theorem nodup_names (configuration : Configuration) :
    (configuration.definitions.map Definition.name).Nodup := by
  rw [map_name_definitions]
  split <;> decide +kernel

/-- LLVM is linked against libxml2 exactly if the debugger is built. -/
theorem usesLibxml2_ofLists (backends : List Backend) (projects : List Project) :
    (ofLists backends projects).usesLibxml2 = decide (.lldb ∈ projects) := by
  rw [ofLists, Bool.eq_iff_iff, List.any_eq_true, decide_eq_true_eq]
  constructor
  · rintro ⟨project, hm, hneeds⟩
    cases project with
    | clang => cases hneeds
    | lldb => exact hm
  · exact fun hm => ⟨.lldb, hm, rfl⟩

/-- The list of projects is read back, where no definition stands for none. -/
theorem readAll_projectsDefinition? (configuration : Configuration) :
    Choice.readAll Project (configuration.projectsDefinition?.toList.flatMap fun definition =>
      fields ';' definition.value) = .ok configuration.projects := by
  unfold projectsDefinition?
  split
  · rename_i hnone
    rw [hnone]
    rfl
  · rename_i hne
    simpa using readAll_projects hne

/-- The arguments in a row. -/
theorem arguments_eq (configuration : Configuration) :
    configuration.arguments = baseline.map Definition.argument ++
      ["-DLLVM_ENABLE_LIBXML2:BOOL=" ++ (if configuration.usesLibxml2 then "ON" else "OFF"),
        "-DLLVM_TARGETS_TO_BUILD:STRING=" ++ listValue configuration.targets] ++
      (if configuration.projects = [] then []
        else ["-DLLVM_ENABLE_PROJECTS:STRING=" ++ listValue configuration.projects]) := by
  have hlibxml2 : configuration.libxml2Definition.argument =
      "-DLLVM_ENABLE_LIBXML2:BOOL=" ++ (if configuration.usesLibxml2 then "ON" else "OFF") :=
    Definition.argument_eq (by decide) _
  have htargets : configuration.targetsDefinition.argument =
      "-DLLVM_TARGETS_TO_BUILD:STRING=" ++ listValue configuration.targets :=
    Definition.argument_eq (by decide) _
  have hprojects : configuration.projectsDefinition?.toList.map Definition.argument =
      if configuration.projects = [] then []
      else ["-DLLVM_ENABLE_PROJECTS:STRING=" ++ listValue configuration.projects] := by
    unfold projectsDefinition?
    split
    · rfl
    · exact congrArg ([·]) (Definition.argument_eq (by decide) _)
  rw [arguments, definitions, List.map_append, List.map_cons, List.map_cons, hlibxml2, htargets,
    hprojects, List.append_assoc]
  rfl

/-- **A configuration is told by its arguments.** -/
theorem arguments_injective {configuration other : Configuration}
    (h : configuration.arguments = other.arguments) : configuration = other := by
  have hsame : configuration.definitions = other.definitions := by
    refine List.map_injective_iff.2 (fun _ _ => Option.some.inj) ?_
    rw [← map_read?_arguments, h, map_read?_arguments]
  simp only [definitions, List.append_cancel_left_eq, List.cons.injEq, targetsDefinition,
    Definition.mk.injEq, true_and] at hsame
  obtain ⟨hlibxml2, hvalue, hprojects⟩ := hsame
  have huses : configuration.usesLibxml2 = other.usesLibxml2 := Definition.switch_inj hlibxml2
  have htargets : (.ok configuration.targets : Except UnknownName _) = .ok other.targets := by
    rw [← readAll_backends configuration.targets_ne_nil, hvalue,
      readAll_backends other.targets_ne_nil]
  have hlisted : (.ok configuration.projects : Except UnknownName _) = .ok other.projects := by
    rw [← readAll_projectsDefinition?, hprojects, readAll_projectsDefinition?]
  obtain ⟨targets, projects, uses, hne⟩ := configuration
  obtain ⟨others, listed, used, hne'⟩ := other
  cases htargets
  cases hlisted
  cases huses
  rfl

/-- **The arguments of a build say what is built.**  They are the baseline, the choice of libxml2,
the list of backends, and the list of projects if there are any, and both lists are read back.  So
other arguments are those of another configuration, and no variable is defined twice. -/
theorem arguments_decode (backends : List Backend) (projects : List Project) :
    (∃ targets listed : String,
      (ofLists backends projects).arguments =
        baseline.map Definition.argument ++
          ["-DLLVM_ENABLE_LIBXML2:BOOL=" ++ (if .lldb ∈ projects then "ON" else "OFF"),
            "-DLLVM_TARGETS_TO_BUILD:STRING=" ++ targets] ++
          (if projects = [] then [] else ["-DLLVM_ENABLE_PROJECTS:STRING=" ++ listed]) ∧
      Choice.readAll Backend (fields ';' targets) =
        .ok (if backends = [] then [.x86] else backends) ∧
      (projects ≠ [] → Choice.readAll Project (fields ';' listed) = .ok projects)) ∧
    (∀ otherBackends otherProjects,
      (ofLists otherBackends otherProjects).arguments = (ofLists backends projects).arguments →
        ofLists otherBackends otherProjects = ofLists backends projects) ∧
    ∀ configuration : Configuration, ∃ names : List String, names.Nodup ∧
      configuration.arguments.map (fun argument =>
        (Definition.read? argument).map Definition.name) = names.map some := by
  refine ⟨⟨listValue (ofLists backends projects).targets, listValue projects, ?_, ?_, ?_⟩,
    fun _ _ => arguments_injective, fun configuration => ?_⟩
  · simp only [arguments_eq, usesLibxml2_ofLists, decide_eq_true_eq]
    rfl
  · exact readAll_backends (ofLists backends projects).targets_ne_nil
  · exact readAll_projects
  · refine ⟨_, nodup_names configuration, ?_⟩
    rw [← Function.comp_def, ← List.map_map, map_read?_arguments, List.map_map, List.map_map]
    rfl

end Configuration

end LlvmProvision
