import TextMemory.Settings.Basic
import TextMemory.Proofs.Settings.Literal

/-!
# What each variable decides

Every field of the settings has a variable of its own. What a variable gives is read into its field,
or its field has the default and the log a warning, and no other variable matters to it. The one
exception is the backend, which decides the model and the dimensions where their own variables do
not.
-/
namespace TextMemory

namespace Text

theorem lower_eq_empty {s : String} : lower s = "" ↔ s = "" := by
  constructor
  · intro h
    rw [lower, String.ofList_eq_empty_iff] at h
    rw [← String.toList_eq_nil_iff]
    generalize s.toList = cs at h
    cases cs with
    | nil => rfl
    | cons c cs =>
      rw [lowerFrom, List.append_eq_nil_iff] at h
      exfalso
      revert h
      split
      · simp
      · split <;> simp
  · rintro rfl
    rfl

end Text

namespace Settings

inductive IntegerField
  | dimensions | chunkSize | chunkOverlap | rankConstant | candidateMultiplier
deriving DecidableEq

inductive WeightField
  | vector | keyword
deriving DecidableEq

inductive Variable
  | path | backend | model
  | integer (f : IntegerField)
  | weight (f : WeightField)
deriving DecidableEq

namespace IntegerField

def name : IntegerField → String
  | dimensions => "AGENTMEMORY_DIMENSIONS"
  | chunkSize => "AGENTMEMORY_CHUNK_SIZE"
  | chunkOverlap => "AGENTMEMORY_CHUNK_OVERLAP"
  | rankConstant => "AGENTMEMORY_RRF_K"
  | candidateMultiplier => "AGENTMEMORY_CANDIDATE_MULTIPLIER"

def of (s : Settings) : IntegerField → Int
  | dimensions => s.dimensions
  | chunkSize => s.chunkSize
  | chunkOverlap => s.chunkOverlap
  | rankConstant => s.rankConstant
  | candidateMultiplier => s.candidateMultiplier

def absent (backend : String) : IntegerField → Int
  | dimensions => if backend = "openai" then 1536 else 384
  | chunkSize => 500
  | chunkOverlap => 64
  | rankConstant => 60
  | candidateMultiplier => 2

end IntegerField

namespace WeightField

def name : WeightField → String
  | vector => "AGENTMEMORY_VECTOR_WEIGHT"
  | keyword => "AGENTMEMORY_KEYWORD_WEIGHT"

def of (s : Settings) : WeightField → Number
  | vector => s.vectorWeight
  | keyword => s.keywordWeight

def absent : WeightField → Number
  | vector => .float 0.7
  | keyword => .float 0.3

end WeightField

namespace Variable

def name : Variable → String
  | path => "AGENTMEMORY_DB_PATH"
  | backend => "AGENTMEMORY_EMBEDDING_BACKEND"
  | model => "AGENTMEMORY_EMBEDDING_MODEL"
  | integer f => f.name
  | weight f => f.name

abbrev Value : Variable → Type
  | path | backend | model => String
  | integer _ => Int
  | weight _ => Number

def of (s : Settings) : (v : Variable) → v.Value
  | path => s.path
  | backend => s.backend
  | model => s.model
  | integer f => f.of s
  | weight f => f.of s

def given (env : Environment) (v : Variable) : String := Text.strip ((env.lookup v.name).getD "")

def Takes : Variable → String → Prop
  | integer _, text => ∃ n, Literal.IntegerText text.toList n
  | weight _, text => ∃ x, Literal.NumberText text.toList x
  | _, _ => True

def Malformed (env : Environment) (v : Variable) : Prop := v.given env ≠ "" ∧ ¬v.Takes (v.given env)

def numeric : List Variable := [
  integer .dimensions, integer .chunkSize, integer .chunkOverlap, weight .vector, weight .keyword,
  integer .rankConstant, integer .candidateMultiplier]

def complaint (env : Environment) (v : Variable) : LogLine :=
  let what := match v with
    | weight _ => "non-numeric"
    | _ => "non-integer"
  warning what v.name (v.given env)

/-- The fields that the backend decides, because their own variables do not. -/
def LeftToBackend (env : Environment) : Variable → Prop
  | model => model.given env = ""
  | integer .dimensions => ¬(integer .dimensions).Takes ((integer .dimensions).given env)
  | _ => False

variable {env env' : Environment} {v : Variable}

theorem mem_all (v : Variable) : v ∈ path :: backend :: model :: numeric := by
  rcases v with _ | _ | _ | (_ | _ | _ | _ | _) | (_ | _) <;> decide

theorem name_injective : Function.Injective name := by
  have hnames : ((path :: backend :: model :: numeric).map name).Nodup := by decide
  intro v w
  exact List.inj_on_of_nodup_map hnames (mem_all v) (mem_all w)

theorem given_congr (h : env'.lookup v.name = env.lookup v.name) : v.given env' = v.given env := by
  rw [given, given, h]

theorem setting?_eq (env : Environment) (v : Variable) :
    setting? env v.name = if v.given env = "" then none else some (v.given env) := by
  rw [setting?, given]
  cases env.lookup v.name with
  | none => rfl
  | some raw => simp only [Option.getD_some, String.isEmpty_iff]

theorem textSetting_eq (env : Environment) (v : Variable) (absent : String) :
    textSetting env v.name absent = if v.given env = "" then absent else v.given env := by
  rw [textSetting, setting?_eq]
  split <;> rfl

theorem int_given_eq_ok {n : Int} :
    Literal.int (v.given env) = .ok n ↔ Literal.IntegerText (v.given env).toList n := by
  rw [Literal.int_eq_ok, given, Literal.trimChars_strip]

theorem float?_given_eq_some {x : Float} :
    Literal.float? (v.given env) = some x ↔ Literal.NumberText (v.given env).toList x := by
  rw [Literal.float?_eq_some, given, Literal.trimChars_strip]

open Classical in
noncomputable def noted (env : Environment) (v : Variable) : List LogLine :=
  if v.Malformed env then [v.complaint env] else []

theorem read_or_noted {α : Type} {found : Option α} (absent : α) (log : List LogLine)
    (htakes : v.Takes (v.given env) ↔ found.isSome) (hempty : v.given env = "" → found = none) :
    (if v.given env = "" then (absent, log) else
      found.elim (absent, log ++ [v.complaint env]) fun x => (x, log)) =
        (found.getD absent, log ++ v.noted env) := by
  by_cases hgiven : v.given env = ""
  · have hnot : ¬v.Malformed env := fun h => h.1 hgiven
    rw [if_pos hgiven, noted, if_neg hnot, List.append_nil, hempty hgiven, Option.getD_none]
  · rw [if_neg hgiven]
    cases found with
    | some x =>
      have hnot : ¬v.Malformed env := fun h => h.2 (htakes.mpr rfl)
      rw [noted, if_neg hnot, List.append_nil, Option.getD_some, Option.elim_some]
    | none =>
      have hmalformed : v.Malformed env := ⟨hgiven, fun h => Bool.false_ne_true (htakes.mp h)⟩
      rw [noted, if_pos hmalformed, Option.getD_none, Option.elim_none]

end Variable

open Variable (given)

def IntegerField.value (env : Environment) (f : IntegerField) (absent : Int) : Int :=
  (Literal.int (given env (.integer f))).toOption.getD absent

def WeightField.value (env : Environment) (f : WeightField) : Number :=
  ((Literal.float? (given env (.weight f))).map Number.float).getD f.absent

theorem IntegerField.takes_iff (env : Environment) (f : IntegerField) :
    (Variable.integer f).Takes (given env (.integer f)) ↔
      (Literal.int (given env (.integer f))).toOption.isSome := by
  rw [Option.isSome_iff_exists]
  refine exists_congr fun n => ?_
  rw [← Variable.int_given_eq_ok]
  cases Literal.int (given env (.integer f)) with
  | ok m => simp [Except.toOption]
  | error e => simp [Except.toOption]

theorem WeightField.takes_iff (env : Environment) (f : WeightField) :
    (Variable.weight f).Takes (given env (.weight f)) ↔
      ((Literal.float? (given env (.weight f))).map Number.float).isSome := by
  rw [Option.isSome_map, Option.isSome_iff_exists]
  exact exists_congr fun x => Variable.float?_given_eq_some.symm

theorem IntegerField.setting_run (env : Environment) (f : IntegerField) (absent : Int)
    (log : List LogLine) :
    (intSetting env f.name absent).run log =
      (f.value env absent, log ++ (Variable.integer f).noted env) := by
  have hsetting : setting? env f.name = _ := Variable.setting?_eq env (.integer f)
  have hempty : given env (.integer f) = "" →
      (Literal.int (given env (.integer f))).toOption = none := by
    intro h
    rw [h]
    rfl
  rw [value, ← Variable.read_or_noted absent log (f.takes_iff env) hempty, intSetting, hsetting]
  by_cases h : given env (.integer f) = ""
  · rw [if_pos h, if_pos h]
    rfl
  · rw [if_neg h, if_neg h]
    dsimp only
    cases Literal.int (given env (.integer f)) <;> rfl

theorem WeightField.setting_run (env : Environment) (f : WeightField) (log : List LogLine) :
    (numberSetting env f.name f.absent).run log =
      (f.value env, log ++ (Variable.weight f).noted env) := by
  have hsetting : setting? env f.name = _ := Variable.setting?_eq env (.weight f)
  have hempty : given env (.weight f) = "" →
      (Literal.float? (given env (.weight f))).map Number.float = none := by
    intro h
    rw [h, show Literal.float? "" = none by decide, Option.map_none]
  rw [value, ← Variable.read_or_noted f.absent log (f.takes_iff env) hempty,
    numberSetting, hsetting]
  by_cases h : given env (.weight f) = ""
  · rw [if_pos h, if_pos h]
    rfl
  · rw [if_neg h, if_neg h]
    dsimp only
    cases Literal.float? (given env (.weight f)) <;> rfl

def chosen (env : Environment) : String :=
  if given env .backend = "" then "fastembed" else Text.lower (given env .backend)

def modelOf (backend : String) : String := if backend = "openai" then remoteModel else localModel

def decided (root : String) (env : Environment) : Settings where
  path := databasePath root env
  backend := chosen env
  model := if given env .model = "" then modelOf (chosen env) else given env .model
  dimensions := IntegerField.dimensions.value env (IntegerField.dimensions.absent (chosen env))
  chunkSize := IntegerField.chunkSize.value env 500
  chunkOverlap := IntegerField.chunkOverlap.value env 64
  vectorWeight := WeightField.vector.value env
  keywordWeight := WeightField.keyword.value env
  rankConstant := IntegerField.rankConstant.value env 60
  candidateMultiplier := IntegerField.candidateMultiplier.value env 2

def Known (env : Environment) : Prop :=
  Text.lower (given env .backend) ∈ ["", "fastembed", "openai"]

theorem chosen_of_known {env : Environment} (h : Known env) :
    chosen env = "fastembed" ∨ chosen env = "openai" := by
  rw [chosen]
  split
  · exact .inl rfl
  · rename_i hne
    have hlower : Text.lower (given env .backend) ≠ "" := mt Text.lower_eq_empty.mp hne
    simpa [Known, hlower] using h

theorem lower_textSetting (env : Environment) :
    Text.lower (textSetting env "AGENTMEMORY_EMBEDDING_BACKEND" "fastembed") = chosen env := by
  have hsetting := Variable.textSetting_eq env .backend "fastembed"
  rw [Variable.name] at hsetting
  rw [hsetting, chosen]
  split
  · decide
  · rfl

theorem bind_run {α β : Type} {x : Reading α} {next : α → Reading β} {a : α}
    {log log' : List LogLine}
    (h : x.run log = (a, log')) : (x >>= next).run log = (next a).run log' := by
  have hbind : (x >>= next).run log = (next (x.run log).1).run (x.run log).2 := rfl
  rw [hbind, h]

theorem read_eq (root : String) {env : Environment} (h : Known env) :
    read root env = .ok (decided root env, Variable.numeric.flatMap (Variable.noted env)) := by
  have hdefaults : backendDefaults? (chosen env) =
      some (modelOf (chosen env), IntegerField.dimensions.absent (chosen env)) := by
    rcases chosen_of_known h with h | h <;> rw [h] <;> rfl
  rw [read]
  dsimp only
  rw [lower_textSetting, hdefaults]
  have hmodel : textSetting env "AGENTMEMORY_EMBEDDING_MODEL" (modelOf (chosen env)) = _ :=
    Variable.textSetting_eq env .model _
  have hinteger (f : IntegerField) := f.setting_run env
  have hdimensions := hinteger .dimensions
  have hchunkSize := hinteger .chunkSize
  have hchunkOverlap := hinteger .chunkOverlap
  have hvector := WeightField.vector.setting_run env
  have hkeyword := WeightField.keyword.setting_run env
  have hrankConstant := hinteger .rankConstant
  have hcandidates := hinteger .candidateMultiplier
  simp only [IntegerField.name] at hdimensions hchunkSize hchunkOverlap hrankConstant hcandidates
  simp only [WeightField.name, WeightField.absent] at hvector hkeyword
  dsimp only
  rw [bind_run (hdimensions _ _), bind_run (hchunkSize _ _), bind_run (hchunkOverlap _ _),
    bind_run (hvector _),
    bind_run (hkeyword _), bind_run (hrankConstant _ _), bind_run (hcandidates _ _), hmodel]
  simp only [Variable.numeric, List.flatMap_cons, List.flatMap_nil, List.append_nil,
    List.nil_append, List.append_assoc]
  rfl

theorem IntegerField.of_decided (root : String) (env : Environment) (f : IntegerField) :
    f.of (decided root env) = f.value env (f.absent (chosen env)) := by
  cases f <;> simp only [of, decided, absent]

theorem WeightField.of_decided (root : String) (env : Environment) (f : WeightField) :
    f.of (decided root env) = f.value env := by
  cases f <;> simp only [of, decided]

theorem IntegerField.value_of_text {env : Environment} {f : IntegerField} {n : Int}
    (h : Literal.IntegerText (given env (.integer f)).toList n) (absent : Int) :
      f.value env absent = n := by
  rw [value, Variable.int_given_eq_ok.mpr h]
  rfl

theorem IntegerField.value_of_not {env : Environment} {f : IntegerField}
    (h : ¬(Variable.integer f).Takes (given env (.integer f))) (absent : Int) :
      f.value env absent = absent := by
  rw [f.takes_iff, Bool.not_eq_true, Option.isSome_eq_false_iff, Option.isNone_iff_eq_none] at h
  rw [value, h, Option.getD_none]

theorem WeightField.value_of_text {env : Environment} {f : WeightField} {x : Float}
    (h : Literal.NumberText (given env (.weight f)).toList x) : f.value env = .float x := by
  rw [value, Variable.float?_given_eq_some.mpr h]
  rfl

theorem WeightField.value_of_not {env : Environment} {f : WeightField}
    (h : ¬(Variable.weight f).Takes (given env (.weight f))) : f.value env = f.absent := by
  rw [f.takes_iff, Bool.not_eq_true, Option.isSome_eq_false_iff, Option.isNone_iff_eq_none] at h
  rw [value, h, Option.getD_none]

/-- The settings and the log are those that the variables give. -/
structure Reflects (env : Environment) (s : Settings) (log : List LogLine) : Prop where
  backend : s.backend = chosen env
  model : s.model = if given env .model = "" then modelOf s.backend else given env .model
  integer : ∀ f n, Literal.IntegerText (given env (.integer f)).toList n → f.of s = n
  integerAbsent : ∀ f, ¬(Variable.integer f).Takes (given env (.integer f)) →
    f.of s = f.absent s.backend
  weight : ∀ f x, Literal.NumberText (given env (.weight f)).toList x → f.of s = .float x
  weightAbsent : ∀ f, ¬(Variable.weight f).Takes (given env (.weight f)) → f.of s = f.absent
  complaints : ∃ bad : List Variable, bad.Sublist Variable.numeric ∧
    (∀ v, v ∈ bad ↔ v ∈ Variable.numeric ∧ v.Malformed env) ∧ log = bad.map (Variable.complaint env)

open Classical in
theorem decided_reflects (root : String) (env : Environment) :
    Reflects env (decided root env) (Variable.numeric.flatMap (Variable.noted env)) where
  backend := by rw [decided]
  model := by simp only [decided]
  integer f n h := by rw [f.of_decided, f.value_of_text h]
  integerAbsent f h := by rw [f.of_decided, f.value_of_not h, decided]
  weight f x h := by rw [f.of_decided, f.value_of_text h]
  weightAbsent f h := by rw [f.of_decided, f.value_of_not h]
  complaints := by
    refine ⟨Variable.numeric.filter fun v => v.Malformed env, List.filter_sublist, ?_, ?_⟩
    · intro v
      rw [List.mem_filter, decide_eq_true_eq]
    · generalize Variable.numeric = vs
      induction vs with
      | nil => rfl
      | cons v vs ih =>
        rw [List.flatMap_cons, ih, Variable.noted]
        by_cases h : v.Malformed env
        · rw [if_pos h, List.filter_cons_of_pos (by simpa using h)]
          rfl
        · rw [if_neg h, List.filter_cons_of_neg (by simpa using h)]
          rfl

/-- A field looks at its own variable alone, and at the backend where that leaves the field to
it. -/
theorem decided_of_changed (root : String) {env env' : Environment} {x v : Variable}
    (hagree : ∀ name, name ≠ x.name → env'.lookup name = env.lookup name) (hv : v ≠ x)
    (hleft : x = .backend → ¬v.LeftToBackend env) :
      v.of (decided root env') = v.of (decided root env) := by
  have hlookup : env'.lookup v.name = env.lookup v.name :=
    hagree v.name (Variable.name_injective.ne hv)
  have hgiven : given env' v = given env v := Variable.given_congr hlookup
  have hchosen (hx : x ≠ .backend) : chosen env' = chosen env := by
    have hname : Variable.backend.name ≠ x.name := Variable.name_injective.ne hx.symm
    rw [chosen, chosen, Variable.given_congr (hagree _ hname)]
  cases v with
  | path =>
    rw [Variable.name] at hlookup
    rw [Variable.of, Variable.of, decided, decided, databasePath, databasePath, hlookup]
  | backend => simp only [Variable.of, decided, hchosen hv.symm]
  | model =>
    simp only [Variable.of, decided, hgiven]
    by_cases hx : x = .backend
    · have hmodel : given env .model ≠ "" := hleft hx
      rw [if_neg hmodel, if_neg hmodel]
    · rw [hchosen hx]
  | integer f =>
    have hvalue (absent : Int) : f.value env' absent = f.value env absent := by
      rw [IntegerField.value, IntegerField.value, hgiven]
    rw [Variable.of, Variable.of, f.of_decided, f.of_decided, hvalue]
    by_cases hx : x = .backend
    · -- of the integers the backend decides the dimensions alone, and these are given
      cases f with
      | dimensions =>
        obtain ⟨n, hn⟩ := not_not.mp (hleft hx)
        rw [IntegerField.value_of_text hn, IntegerField.value_of_text hn]
      | chunkSize | chunkOverlap | rankConstant | candidateMultiplier =>
          simp only [IntegerField.absent]
    · rw [hchosen hx]
  | weight f =>
    rw [Variable.of, Variable.of, f.of_decided, f.of_decided, WeightField.value,
      WeightField.value, hgiven]

/-- An environment with a backend that is known has settings. Each field has what its variable
gives, or the default, and the log has one line for each number that could not be read. The text of
an integer within the limit gives that integer. Changing a variable changes its own field, and the
backend those that are left to it. -/
theorem read_reflects (root : String) {env : Environment} (h : Known env) :
    ∃ s log, read root env = .ok (s, log) ∧ Reflects env s log ∧
      (∀ f n, n.natAbs < 10 ^ Literal.digitLimit →
        env.lookup (Variable.integer f).name = some (toString n) → f.of s = n) ∧
      ∀ (x : Variable) (env' : Environment),
        (∀ name, name ≠ x.name → env'.lookup name = env.lookup name) → Known env' →
        ∃ s' log', read root env' = .ok (s', log') ∧
          ∀ v, v ≠ x → (x = .backend → ¬v.LeftToBackend env) → v.of s' = v.of s := by
  have hreflects := decided_reflects root env
  refine ⟨_, _, read_eq root h, hreflects, ?_, ?_⟩
  · intro f n hlimit hlookup
    have hgiven : given env (.integer f) = toString n := by
      rw [given, hlookup, Option.getD_some, Literal.strip_toString]
    have htext : Literal.IntegerText (given env (.integer f)).toList n := by
      rw [hgiven]
      exact Literal.integerText_toString hlimit
    exact hreflects.integer f n htext
  · intro x env' hagree hknown
    exact ⟨_, _, read_eq root hknown, fun v hv hleft => decided_of_changed root hagree hv hleft⟩

private def kettle (chunkSize : String) : Environment := [
  ("AGENTMEMORY_EMBEDDING_BACKEND", " OpenAI "), ("AGENTMEMORY_CHUNK_SIZE", chunkSize),
  ("AGENTMEMORY_RRF_K", "6_")]

theorem read_reflects_of_kettle :
    let env := kettle " ٨_00"
    let env' := kettle "700"
    Known env ∧ Known env' ∧ ∃ s log s' log', read "kitchen" env = .ok (s, log) ∧
      s.dimensions = 1536 ∧
      s.chunkSize = 800 ∧ s.rankConstant = 60 ∧ read "kitchen" env' = .ok (s', log') ∧
      s'.chunkSize = 700 ∧
      s'.rankConstant = 60 := by
  intro env env'
  have hgiven : given env .backend = "OpenAI" := by
    have hlookup : env.lookup Variable.backend.name = some " OpenAI " := List.lookup_cons_self
    rw [given, hlookup, Option.getD_some]
    decide +kernel
  have hlower : Text.lower "OpenAI" = "openai" := by decide +kernel
  have hbackend : chosen env = "openai" := by rw [chosen, hgiven, if_neg (by decide), hlower]
  have hknown : Known env := by simp [Known, hgiven, hlower]
  have hknown' : Known env' := hknown
  have hdimensions : Literal.int (given env (.integer .dimensions)) = .error (.integerText "") := by
    decide +kernel
  have hsize : Literal.int (given env (.integer .chunkSize)) = .ok 800 := by decide +kernel
  have hconstant : Literal.int (given env (.integer .rankConstant)) = .error (.integerText "6_") :=
    by decide +kernel
  have hnot {f : IntegerField} {e : Fault} (h : Literal.int (given env (.integer f)) = .error e) :
      ¬(Variable.integer f).Takes (given env (.integer f)) := by
    rintro ⟨n, hn⟩
    rw [Variable.int_given_eq_ok.mpr hn] at h
    cases h
  obtain ⟨s, log, hread, hreflects, -, hchanged⟩ := read_reflects "kitchen" hknown
  have hagree (name : String) (hne : name ≠ (Variable.integer .chunkSize).name) :
      env'.lookup name = env.lookup name := by
    have hbeq : (name == "AGENTMEMORY_CHUNK_SIZE") = false := beq_eq_false_iff_ne.mpr hne
    simp only [env, env', kettle, List.lookup, hbeq]
  obtain ⟨t, log', hread', -, hnatural, -⟩ := read_reflects "kitchen" hknown'
  obtain ⟨s', log'', hread'', hsame⟩ := hchanged (.integer .chunkSize) env' hagree hknown'
  obtain ⟨rfl, rfl⟩ := Prod.mk.inj (Except.ok.inj (hread'.symm.trans hread''))
  have hkept : s.rankConstant = 60 := hreflects.integerAbsent .rankConstant (hnot hconstant)
  have hsame' := hsame (.integer .rankConstant) (by decide) (fun h => by cases h)
  refine ⟨hknown, hknown', s, log, t, log', hread, ?_, hreflects.integer .chunkSize 800 ?_,
    hkept, hread', ?_,
    hsame'.trans hkept⟩
  · have hdefault := hreflects.integerAbsent .dimensions (hnot hdimensions)
    rw [hreflects.backend, hbackend] at hdefault
    exact hdefault
  · exact Variable.int_given_eq_ok.mp hsize
  · have hlimit : (700 : Int).natAbs < 10 ^ Literal.digitLimit :=
      Nat.lt_of_lt_of_le (show 700 < 10 ^ 3 by decide)
        (Nat.pow_le_pow_right (by decide) (by decide))
    exact hnatural .chunkSize 700 hlimit rfl

end Settings
end TextMemory
