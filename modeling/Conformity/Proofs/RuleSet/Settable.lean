import Conformity.Proofs.Text.Order
import Conformity.Proofs.Work
import Conformity.RuleSet.Artifact

/-!
# What can be set at run time

In the stylesheet that is handed to the engine the allowed names are parameters, and those of the
others that the rule source binds are variables (`Parameters.exists_expose_eq_ok`). The parameters of
the artifact are the allowed names among the parameters of that stylesheet. The rule source is looked
at as it was before the first stage, so that a name bound by what the source includes can still be set
(`Artifact.fixes_iff`).
-/

namespace Conformity

open Markup

namespace Parameters

variable {allowed bound names : List String} {around : List (List SpaceDeclaration)} {base name : String}
  {c : Node} {d g : Document}

/-! ## Names at the top level -/

/-- A rule source binds a name at its top level. -/
def Binds (source : Bytes) (name : String) : Prop :=
  ∃ d, Faithful.read? source = some d ∧ ∃ c ∈ children d.root, binding? c = some name

/-- A stylesheet has an element of a sort with a name at its top level. -/
def HasTop (base : String) (d : Document) (name : String) : Prop :=
  ∃ c ∈ children d.root, isNamed base [name] c

instance (source : Bytes) (name : String) : Decidable (Binds source name) :=
  decidable_of_iff
    ((Faithful.read? source).any fun d => (children d.root).any fun c => binding? c == some name)
    (by simp [Binds, Option.any_eq_true])

instance (base : String) (d : Document) (name : String) : Decidable (HasTop base d name) :=
  inferInstanceAs (Decidable (∃ c ∈ children d.root, isNamed base [name] c))

theorem mem_bindings_iff {source : Bytes} (h : bindings source = .ok bound) :
    name ∈ bound ↔ Binds source name := by
  unfold bindings at h
  unfold Binds
  split at h
  · cases h
  · next d hread =>
    cases h
    simp [hread, Text.mem_sortedSet]

/-- The sort and the name of an element of the stylesheet language. -/
def named? : Node → Option (String × String)
  | .element q _ attributes _ =>
    if q.space = some stylesheetSpace then
      (Node.attribute? "name" attributes).map fun name => (q.base, name)
    else none
  | _ => none

theorem isNamed_iff : isNamed base names c ↔ ∃ n ∈ names, named? c = some (base, n) := by
  cases c with
  | element q ds as cs =>
      simp only [isNamed, named?, Name.isIn, Bool.and_eq_true, beq_iff_eq, Option.any_eq_true,
        List.contains_iff_mem]
      constructor
      · rintro ⟨⟨hspace, rfl⟩, n, hname, hn⟩
        exact ⟨n, hn, by rw [if_pos hspace, hname]; rfl⟩
      · rintro ⟨n, hn, h⟩
        split at h
        · next hspace =>
          obtain ⟨m, hm, heq⟩ := Option.map_eq_some_iff.mp h
          cases heq
          exact ⟨⟨hspace, rfl⟩, n, hm, hn⟩
        · cases h
  | _ => simp [isNamed, named?]

theorem hasTop_iff : HasTop base d name ↔ ∃ c ∈ children d.root, named? c = some (base, name) := by
  unfold HasTop
  simp [isNamed_iff]

theorem named?_rename {p : String × String} (h : named? c = some p) :
    named? (c.rename stylesheetSpace base around) = some (base, p.2) := by
  cases c with
  | element q ds as cs =>
      simp only [named?] at h
      split at h
      · obtain ⟨m, hm, rfl⟩ := Option.map_eq_some_iff.mp h
        simp [Node.rename, named?, hm]
      · cases h
  | _ => cases h

/-! ## What becomes of a top-level node -/

/-- The sort that an element of a sort with a name has to be of. -/
def settled (allowed bound : List String) (sort name : String) : String :=
  if sort = "variable" ∧ name ∈ allowed then "param"
  else if sort = "param" ∧ name ∉ allowed ∧ name ∈ bound then "variable"
  else sort

theorem settled_eq_variable_iff {sort : String} : settled allowed bound sort name = "variable" ↔
    name ∉ allowed ∧ (sort = "variable" ∨ name ∈ bound ∧ sort = "param") := by
  unfold settled
  by_cases hn : name ∈ allowed
  · by_cases hvariable : sort = "variable" <;> simp [hn, hvariable]
  · by_cases hparam : sort = "param" <;> by_cases hbound : name ∈ bound <;> simp [hn, hparam, hbound]

theorem settled_eq_param_iff {sort : String} : settled allowed bound sort name = "param" ↔
    name ∈ allowed ∧ sort = "variable" ∨ (name ∈ allowed ∨ name ∉ bound) ∧ sort = "param" := by
  unfold settled
  by_cases hn : name ∈ allowed
  · by_cases hvariable : sort = "variable" <;> simp [hn, hvariable]
  · by_cases hparam : sort = "param" <;> by_cases hbound : name ∈ bound <;> simp [hn, hparam, hbound]

theorem newBase?_of_named? {sort : String} (h : named? c = some (sort, name)) :
    newBase? allowed bound c = if settled allowed bound sort name = sort then none
      else some (settled allowed bound sort name) := by
  have hnamed : ∀ base names, isNamed base names c ↔ sort = base ∧ name ∈ names := by
    intro base names
    rw [isNamed_iff, h]
    constructor
    · rintro ⟨n, hn, heq⟩
      cases heq
      exact ⟨rfl, hn⟩
    · rintro ⟨rfl, hn⟩
      exact ⟨name, hn, rfl⟩
  unfold newBase? settled
  simp only [hnamed]
  by_cases hvariable : sort = "variable" ∧ name ∈ allowed
  · simp [hvariable]
  · by_cases hparam : sort = "param" ∧ name ∈ allowed
    · simp [hparam]
    · by_cases hbound : sort = "param" ∧ name ∈ bound
      · have hallowed : name ∉ allowed := fun hn => hparam ⟨hbound.1, hn⟩
        simp [hbound, hallowed]
      · have hother : ¬ (sort = "param" ∧ name ∉ allowed ∧ name ∈ bound) := fun h => hbound ⟨h.1, h.2.2⟩
        rw [if_neg hvariable, if_neg hparam, if_neg hbound, if_neg hvariable, if_neg hother, if_pos rfl]

theorem newBase?_of_not_named? (h : named? c = none) : newBase? allowed bound c = none := by
  have hnamed : ∀ base names, ¬ isNamed base names c := by
    intro base names
    rw [isNamed_iff, h]
    simp
  simp [newBase?, hnamed]

theorem exposed?_of_named? {sort : String} (h : named? c = some (sort, name)) (hn : name ∈ allowed)
    (hsort : sort = "variable" ∨ sort = "param") : exposed? allowed c = some name := by
  have hnamed : isNamed "variable" allowed c || isNamed "param" allowed c := by
    rw [Bool.or_eq_true, isNamed_iff, isNamed_iff]
    rcases hsort with rfl | rfl
    · exact .inl ⟨name, hn, h⟩
    · exact .inr ⟨name, hn, h⟩
  cases c with
  | element q ds as cs =>
      rw [exposed?, if_pos hnamed]
      simp only [named?] at h
      split at h
      · obtain ⟨m, hm, heq⟩ := Option.map_eq_some_iff.mp h
        cases heq
        exact hm
      · cases h
  | _ => cases h

/-- A node is exposed under its name if that is allowed. -/
theorem exposed?_eq_some_iff : exposed? allowed c = some name ↔
    name ∈ allowed ∧ (named? c = some ("variable", name) ∨ named? c = some ("param", name)) := by
  constructor
  · intro h
    have hnamed : isNamed "variable" allowed c || isNamed "param" allowed c := by
      unfold exposed? at h
      split at h
      · next hnamed => exact hnamed
      · cases h
    rw [Bool.or_eq_true, isNamed_iff, isNamed_iff] at hnamed
    rcases hnamed with ⟨n, hn, hc⟩ | ⟨n, hn, hc⟩
    · obtain rfl : n = name := Option.some.inj ((exposed?_of_named? hc hn (.inl rfl)).symm.trans h)
      exact ⟨hn, .inl hc⟩
    · obtain rfl : n = name := Option.some.inj ((exposed?_of_named? hc hn (.inr rfl)).symm.trans h)
      exact ⟨hn, .inr hc⟩
  · rintro ⟨hn, hc | hc⟩
    · exact exposed?_of_named? hc hn (.inl rfl)
    · exact exposed?_of_named? hc hn (.inr rfl)

/-- A node keeps its name and gets the sort that it has to be of. -/
theorem named?_rebound (allowed bound : List String) (around : List (List SpaceDeclaration))
    (c : Node) : named? (rebound allowed bound around c) =
      (named? c).map fun p => (settled allowed bound p.1 p.2, p.2) := by
  unfold rebound
  rcases h : named? c with _ | ⟨sort, name⟩
  · rw [newBase?_of_not_named? h]
    exact h
  · rw [newBase?_of_named? h]
    by_cases hsame : settled allowed bound sort name = sort
    · rw [if_pos hsame]
      simp [h, hsame]
    · rw [if_neg hsame]
      exact named?_rename h

theorem children_reboundRoot (allowed bound : List String) (root : Node) :
    ∃ around, children (reboundRoot allowed bound root) =
      (children root).map (rebound allowed bound around) := by
  cases root with
  | element q ds as cs => exact ⟨[ds], rfl⟩
  | _ => exact ⟨[], rfl⟩

/-- Where no node changes, the top level stays. -/
theorem children_reboundRoot_of_unchanged {root : Node}
    (h : ∀ c ∈ children root, newBase? allowed bound c = none) :
    children (reboundRoot allowed bound root) = children root := by
  obtain ⟨around, heq⟩ := children_reboundRoot allowed bound root
  rw [heq]
  refine (List.map_congr_left fun c hc => ?_).trans (List.map_id _)
  rw [rebound, h c hc]
  rfl

/-! ## The stylesheet as it has to be -/

/-- At the top level of a stylesheet each name of another one is of the sort that it has to be of, and
there are no more names. -/
def Settles (allowed bound : List String) (g s : Document) : Prop :=
  ∀ base name, HasTop base s name ↔ ∃ sort, HasTop sort g name ∧ settled allowed bound sort name = base

theorem settles_rebound (allowed bound : List String) (g : Document) :
    Settles allowed bound g { g with root := reboundRoot allowed bound g.root } := by
  intro base name
  obtain ⟨around, heq⟩ := children_reboundRoot allowed bound g.root
  simp only [hasTop_iff, heq, List.mem_map]
  constructor
  · rintro ⟨_, ⟨c, hc, rfl⟩, hnamed⟩
    rw [named?_rebound] at hnamed
    obtain ⟨⟨sort, n⟩, hn, hsettled⟩ := Option.map_eq_some_iff.mp hnamed
    cases hsettled
    exact ⟨sort, ⟨c, hc, hn⟩, rfl⟩
  · rintro ⟨sort, ⟨c, hc, hn⟩, hsettled⟩
    refine ⟨_, ⟨c, hc, rfl⟩, ?_⟩
    rw [named?_rebound, hn, Option.map_some, hsettled]

/-- A stylesheet in which nothing changes is as it has to be. -/
theorem settles_self (h : ∀ c ∈ children g.root, newBase? allowed bound c = none) :
    Settles allowed bound g g := by
  intro base name
  rw [← settles_rebound allowed bound g base name, hasTop_iff, hasTop_iff,
    children_reboundRoot_of_unchanged h]

variable {s : Document}

/-- Names that are not allowed and come from the rule source are variables. -/
theorem Settles.variable_iff (h : Settles allowed bound g s) : HasTop "variable" s name ↔
    name ∉ allowed ∧ (HasTop "variable" g name ∨ name ∈ bound ∧ HasTop "param" g name) := by
  rw [h]
  constructor
  · rintro ⟨sort, htop, hsettled⟩
    obtain ⟨hn, rfl | ⟨hbound, rfl⟩⟩ := settled_eq_variable_iff.mp hsettled
    · exact ⟨hn, .inl htop⟩
    · exact ⟨hn, .inr ⟨hbound, htop⟩⟩
  · rintro ⟨hn, htop | ⟨hbound, htop⟩⟩
    · exact ⟨_, htop, settled_eq_variable_iff.mpr ⟨hn, .inl rfl⟩⟩
    · exact ⟨_, htop, settled_eq_variable_iff.mpr ⟨hn, .inr ⟨hbound, rfl⟩⟩⟩

/-- Names that are allowed are parameters, and so are those that do not come from the rule source. -/
theorem Settles.param_iff (h : Settles allowed bound g s) : HasTop "param" s name ↔
    name ∈ allowed ∧ HasTop "variable" g name ∨
      (name ∈ allowed ∨ name ∉ bound) ∧ HasTop "param" g name := by
  rw [h]
  constructor
  · rintro ⟨sort, htop, hsettled⟩
    obtain ⟨hn, rfl⟩ | ⟨hn, rfl⟩ := settled_eq_param_iff.mp hsettled
    · exact .inl ⟨hn, htop⟩
    · exact .inr ⟨hn, htop⟩
  · rintro (⟨hn, htop⟩ | ⟨hn, htop⟩)
    · exact ⟨_, htop, settled_eq_param_iff.mpr (.inl ⟨hn, rfl⟩)⟩
    · exact ⟨_, htop, settled_eq_param_iff.mpr (.inr ⟨hn, rfl⟩)⟩

/-- The names under which nodes are exposed are the allowed parameters. -/
theorem Settles.mem_exposed_iff (h : Settles allowed bound g s) :
    name ∈ Text.sortedSet ((children g.root).filterMap (exposed? allowed)) ↔
      name ∈ allowed ∧ HasTop "param" s name := by
  have hparam : name ∈ allowed ∧ HasTop "param" s name ↔
      name ∈ allowed ∧ (HasTop "variable" g name ∨ HasTop "param" g name) := by
    refine and_congr_right fun hn => ?_
    rw [h.param_iff]
    simp [hn]
  rw [hparam, Text.mem_sortedSet, List.mem_filterMap, hasTop_iff, hasTop_iff]
  constructor
  · rintro ⟨c, hc, hexposed⟩
    obtain ⟨hn, hnamed⟩ := exposed?_eq_some_iff.mp hexposed
    exact ⟨hn, hnamed.imp (fun h => ⟨c, hc, h⟩) fun h => ⟨c, hc, h⟩⟩
  · rintro ⟨hn, ⟨c, hc, hnamed⟩ | ⟨c, hc, hnamed⟩⟩
    · exact ⟨c, hc, exposed?_eq_some_iff.mpr ⟨hn, .inl hnamed⟩⟩
    · exact ⟨c, hc, exposed?_eq_some_iff.mpr ⟨hn, .inr hnamed⟩⟩

/-- Exposing parameters, whether something is allowed or bound or nothing is. -/
theorem expose_eq_ok {generated : Bytes} (hread : Faithful.read? generated = some g)
    (allowed bound : List String) : expose generated allowed bound =
      .ok (if ∀ c ∈ children g.root, newBase? allowed bound c = none then generated
          else ({ g with root := reboundRoot allowed bound g.root } : Document).bytes,
        Text.sortedSet ((children g.root).filterMap (exposed? allowed))) := by
  unfold expose
  split
  · next hnothing =>
    -- no node can change, and none is exposed
    simp only [Bool.and_eq_true, List.isEmpty_iff] at hnothing
    obtain ⟨rfl, rfl⟩ := hnothing
    have hsame : ∀ c ∈ children g.root, newBase? [] [] c = none := by
      intro c _
      simp [newBase?, isNamed_iff]
    have hexposed : (children g.root).filterMap (exposed? []) = [] := by
      refine List.filterMap_eq_nil_iff.mpr fun c _ => Option.eq_none_iff_forall_ne_some.mpr ?_
      intro n hn
      exact List.not_mem_nil (exposed?_eq_some_iff.mp hn).1
    rw [if_pos hsame, hexposed, Text.sortedSet_eq_self_iff.mpr .nil]
  · rw [hread]
    dsimp only
    split
    · next hany =>
      rw [if_neg (by simpa [Option.isSome_iff_ne_none] using hany)]
    · next hany =>
      rw [if_pos (by simpa [Option.isSome_iff_ne_none] using hany)]

/-- What is handed on is the text of a stylesheet that is as it has to be, and the names that are told
are the allowed ones among its parameters. -/
theorem exists_expose_eq_ok {generated : Bytes} (hread : Faithful.read? generated = some g)
    (allowed bound : List String) :
    ∃ content s ps, expose generated allowed bound = .ok (content, ps) ∧
      (content = generated ∧ s = g ∨ content = s.bytes) ∧ Settles allowed bound g s ∧
      ∀ n, n ∈ ps ↔ n ∈ allowed ∧ HasTop "param" s n := by
  rw [expose_eq_ok hread]
  split
  · next hsame =>
    have hsettles := settles_self hsame
    exact ⟨_, _, _, rfl, .inl ⟨rfl, rfl⟩, hsettles, fun n => hsettles.mem_exposed_iff⟩
  · have hsettles := settles_rebound allowed bound g
    exact ⟨_, _, _, rfl, .inr rfl, hsettles, fun n => hsettles.mem_exposed_iff⟩

end Parameters

namespace Artifact

open Parameters

variable {e : Engine} {c : Config.Compiler} {source : RuleSource} {name : String}
  {dispatched generated content : Bytes} {own parameters : List String} {log : EngineLog}

/-! ## The way of a rule source -/

/-- How a rule source is sent through a stage. -/
def stageRun (c : Config.Compiler) (source : RuleSource) (stage : Stage) : Run :=
  ⟨some stage, stageParameters c stage, source.base⟩

/-- The first stage makes one document of a rule source, and the last one a stylesheet. -/
def Generates (e : Engine) (c : Config.Compiler) (source : RuleSource)
    (dispatched generated : Bytes) : Prop :=
  ∃ expanded,
    e.pass .dispatch (stageRun c source .dispatch) source.content = .ok dispatched ∧
      e.pass .abstract (stageRun c source .abstract) dispatched = .ok expanded ∧
      e.pass .message (stageRun c source .message) expanded = .ok generated

theorem resultOf_pass (stage : Stage) (document : Bytes) :
    resultOf (pass e c source.base name stage document) log =
      (match e.pass stage (stageRun c source stage) document with
        | .ok document => .ok document
        | .error f =>
          .error ⟨.stage name stage f.message, f.diagnostics.map (Diagnostic.restaged stage.name)⟩,
        { log with runs := stageRun c source stage :: log.runs }) := by
  unfold pass
  dsimp only
  rw [resultOf_bind, resultOf_modify]
  dsimp only
  show resultOf (match e.pass stage (stageRun c source stage) document with
    | .ok document => pure document
    | .error f => throw _) _ = _
  cases e.pass stage (stageRun c source stage) document <;> rfl

theorem generate_eq (e : Engine) (c : Config.Compiler) (source : RuleSource) (name : String) :
    generate e c source name =
      (pass e c source.base name .dispatch source.content >>= fun dispatched =>
        pass e c source.base name .abstract dispatched >>= fun expanded =>
          pass e c source.base name .message expanded) := by
  unfold generate Stage.all
  simp only [List.foldlM_cons, List.foldlM_nil, bind_pure]

/-- A stylesheet is generated by the three stages, one after another. -/
theorem resultOf_generate_of_generates (h : Generates e c source dispatched generated) :
    resultOf (generate e c source name) log = (.ok generated,
      { log with runs := stageRun c source .message :: stageRun c source .abstract ::
          stageRun c source .dispatch :: log.runs }) := by
  obtain ⟨expanded, hdispatch, habstract, hmessage⟩ := h
  rw [generate_eq, resultOf_bind, resultOf_pass, hdispatch]
  dsimp only
  rw [resultOf_bind, resultOf_pass, habstract]
  dsimp only
  rw [resultOf_pass, hmessage]

theorem pass_eq_ok {stage : Stage} {document result : Bytes} {log log' : EngineLog}
    (h : resultOf (pass e c source.base name stage document) log = (.ok result, log')) :
    e.pass stage (stageRun c source stage) document = .ok result := by
  rw [resultOf_pass] at h
  split at h
  · next heq =>
    cases h
    exact heq
  · cases h

theorem generates_of_generate {log' : EngineLog}
    (h : resultOf (generate e c source name) log = (.ok generated, log')) :
    ∃ dispatched, Generates e c source dispatched generated := by
  rw [generate_eq] at h
  obtain ⟨dispatched, _, hdispatch, h⟩ := resultOf_bind_eq_ok h
  obtain ⟨expanded, _, habstract, h⟩ := resultOf_bind_eq_ok h
  exact ⟨dispatched, expanded, pass_eq_ok hdispatch, pass_eq_ok habstract, pass_eq_ok h⟩

/-! ## What is handed to the engine -/

/-- A rule source comes to a stylesheet that is compiled: its artifact has the executable, the
stylesheet itself and some parameters, or the engine refuses the stylesheet. -/
def Hands (e : Engine) (c : Config.Compiler) (source : RuleSource) (name : String) (content : Bytes)
    (parameters : List String) : Prop :=
  ∀ log, ∃ log', log'.stylesheets = log.stylesheets + 1 ∧
    resultOf (compile e c source name) log =
      (match e.compile content with
        | .ok stylesheet => .ok ⟨name, stylesheet, content, parameters⟩
        | .error f =>
          .error ⟨.generated name f.message, f.diagnostics.map (Diagnostic.restaged "compile")⟩, log')

theorem resultOf_compileStylesheet (fault : EngineFault → CompilationFault) :
    resultOf (compileStylesheet e content fault) log =
      (match e.compile content with
        | .ok stylesheet => .ok stylesheet
        | .error f => .error (fault f),
        { log with stylesheets := log.stylesheets + 1 }) := by
  unfold compileStylesheet
  rw [resultOf_bind, resultOf_modify]
  dsimp only
  cases e.compile content <;> rfl

theorem hands_of_expose (hgenerates : Generates e c source dispatched generated)
    (hown : bindings source.content = .ok own)
    (hexpose : expose generated c.parameterAllowList own = .ok (content, parameters)) :
    Hands e c source name content parameters := by
  intro log
  unfold compile
  rw [resultOf_bind, resultOf_generate_of_generates hgenerates, hown]
  dsimp only [pure?]
  rw [pure_bind, hexpose]
  dsimp only
  rw [pure_bind, resultOf_bind, resultOf_compileStylesheet]
  cases hcompile : e.compile content with
  | ok stylesheet => exact ⟨_, rfl, rfl⟩
  | error f => exact ⟨_, rfl, rfl⟩

/-- The bindings of the document that the first stage made are fixed in a stylesheet: those that are
parameters of the generated one and not allowed are variables. -/
def Fixes (allowed : List String) (dispatched : Bytes) (g s : Document) : Prop :=
  ∀ n, Binds dispatched n → HasTop "param" g n → n ∉ allowed →
    HasTop "variable" s n ∧ ¬ HasTop "param" s n

/-- The stylesheet that is handed to the engine fixes the bindings that the first stage knows exactly
if those among them that are generated as parameters and not allowed are in the source itself. The
parameters of the artifact are the allowed names among those of the stylesheet. -/
theorem fixes_iff {src g : Document} (hgenerates : Generates e c source dispatched generated)
    (hsource : Faithful.read? source.content = some src)
    (hread : Faithful.read? generated = some g) (name : String) :
    ∃ content s parameters, (content = generated ∧ s = g ∨ content = s.bytes) ∧
      Hands e c source name content parameters ∧
      (Fixes c.parameterAllowList dispatched g s ↔
        ∀ n, Binds dispatched n → HasTop "param" g n → n ∉ c.parameterAllowList →
          Binds source.content n) ∧
      ∀ n, n ∈ parameters ↔ n ∈ c.parameterAllowList ∧ HasTop "param" s n := by
  obtain ⟨own, hown⟩ : ∃ own, bindings source.content = .ok own := by
    unfold bindings
    rw [hsource]
    exact ⟨_, rfl⟩
  obtain ⟨content, s, parameters, hexpose, htext, hsettles, hparameters⟩ :=
    exists_expose_eq_ok hread c.parameterAllowList own
  refine ⟨content, s, parameters, htext, hands_of_expose hgenerates hown hexpose, ?_, hparameters⟩
  refine forall_congr' fun n => forall_congr' fun hbinds => forall_congr' fun htop =>
    forall_congr' fun hn => ?_
  rw [hsettles.variable_iff, hsettles.param_iff, ← mem_bindings_iff hown]
  constructor
  · rintro ⟨-, hparam⟩
    by_cases hbound : n ∈ own
    · exact hbound
    · exact absurd (.inr ⟨.inr hbound, htop⟩) hparam
  · intro hbound
    exact ⟨⟨hn, .inr ⟨hbound, htop⟩⟩, by simp [hn, hbound]⟩

theorem pure?_eq_ok {α : Type} {x : Except CompilationFault α} {a : α} {log log' : EngineLog}
    (h : resultOf (pure? x) log = (.ok a, log')) : x = .ok a := by
  cases x with
  | error f => cases h
  | ok b =>
      cases h
      rfl

/-- An artifact is made in this way only, or from a stylesheet that cannot be read where nothing is
allowed; then it has no parameters. -/
theorem generates_of_compile {a : Artifact} {log' : EngineLog}
    (h : resultOf (compile e c source name) log = (.ok a, log')) :
    ∃ dispatched generated, Generates e c source dispatched generated ∧
      (∃ src, Faithful.read? source.content = some src) ∧
      ((∃ g, Faithful.read? generated = some g) ∨
        c.parameterAllowList = [] ∧ a.generated = generated ∧ a.parameters = []) := by
  obtain ⟨generated, _, hgenerate, h⟩ := resultOf_bind_eq_ok h
  obtain ⟨own, _, hown, h⟩ := resultOf_bind_eq_ok h
  obtain ⟨⟨content, parameters⟩, _, hexpose, h⟩ := resultOf_bind_eq_ok h
  obtain ⟨stylesheet, _, -, h⟩ := resultOf_bind_eq_ok h
  cases h
  obtain ⟨dispatched, hgenerates⟩ := generates_of_generate hgenerate
  refine ⟨dispatched, generated, hgenerates, ?_, ?_⟩
  · have hbindings := pure?_eq_ok hown
    unfold bindings at hbindings
    split at hbindings
    · cases hbindings
    · next src hsource => exact ⟨src, hsource⟩
  · have hexposed := pure?_eq_ok hexpose
    unfold expose at hexposed
    split at hexposed
    · next hnothing =>
      cases hexposed
      simp only [Bool.and_eq_true, List.isEmpty_iff] at hnothing
      exact .inr ⟨hnothing.1, rfl, rfl⟩
    · split at hexposed
      · cases hexposed
      · next g hread => exact .inl ⟨g, hread⟩

/-! ### A name that is brought in

The first stage brings in a binding, and the last one makes a parameter of it. -/

/-- A source that binds a name. -/
def bindingSource : Bytes := bytesOf
  "<schema xmlns=\"http://purl.oclc.org/dsdl/schematron\"><let name=\"x\" value=\"1\"/></schema>"

/-- A source that binds nothing itself. -/
def bareSource : Bytes := bytesOf "<schema xmlns=\"http://purl.oclc.org/dsdl/schematron\"/>"

/-- A stylesheet with a parameter. -/
def withParam : Bytes := bytesOf
  "<s:transform xmlns:s=\"http://www.w3.org/1999/XSL/Transform\"><s:param name=\"x\"/></s:transform>"

/-- An engine that brings in the binding, and makes the parameter of it. -/
def including : Engine where
  pass := fun stage _ document =>
    match stage with
    | .dispatch => .ok bindingSource
    | .abstract => .ok document
    | .message => .ok withParam
  compile := fun content => .ok ⟨content⟩
  apply := fun _ _ _ => .ok []
  compileSchema := fun content => .ok ⟨content⟩
  validate := fun _ _ => []

theorem generates_including (content : Bytes) :
    Generates including {} { content } bindingSource withParam :=
  ⟨bindingSource, rfl, rfl, rfl⟩

/-- What is read from these texts. -/
theorem readings : (Faithful.read? bindingSource).isSome ∧ Binds bindingSource "x" ∧
    (bindings bareSource).toOption = some [] ∧
    (expose withParam ["type"] []).toOption = some (withParam, []) ∧
    (Faithful.read? withParam).any fun g => HasTop "param" g "x" ∧ ¬ HasTop "variable" g "x" := by
  decide +kernel

/-- A binding of the source itself is fixed. -/
theorem fixes_of_own : ∃ g content s parameters,
    Generates including {} { content := bindingSource } bindingSource withParam ∧
      Faithful.read? withParam = some g ∧ Binds bindingSource "x" ∧ HasTop "param" g "x" ∧
      (content = withParam ∧ s = g ∨ content = s.bytes) ∧
      Hands including {} { content := bindingSource } "main" content parameters ∧
      HasTop "variable" s "x" ∧ ¬ HasTop "param" s "x" := by
  obtain ⟨hsome, hbinds, -, -, htops⟩ := readings
  obtain ⟨src, hsource⟩ := Option.isSome_iff_exists.mp hsome
  obtain ⟨g, hread, htops⟩ := (Option.any_eq_true _ _).mp htops
  obtain ⟨hparam, -⟩ := of_decide_eq_true htops
  obtain ⟨content, s, parameters, htext, hhands, hfixes, -⟩ :=
    fixes_iff (generates_including bindingSource) hsource hread "main"
  obtain ⟨hvariable, hno⟩ := hfixes.mpr (fun _ h _ _ => h) "x" hbinds hparam (by decide)
  exact ⟨g, content, s, parameters, generates_including _, hread, hbinds, hparam, htext, hhands,
    hvariable, hno⟩

/-- A binding that is brought in can still be set: the stylesheet is handed on with its parameter. -/
theorem settable_of_included : ∃ g,
    Generates including {} { content := bareSource } bindingSource withParam ∧
      Faithful.read? withParam = some g ∧ Binds bindingSource "x" ∧ HasTop "param" g "x" ∧
      "x" ∉ ({} : Config.Compiler).parameterAllowList ∧
      Hands including {} { content := bareSource } "main" withParam [] ∧
      ¬ HasTop "variable" g "x" := by
  obtain ⟨-, hbinds, hown, hexpose, htops⟩ := readings
  obtain ⟨g, hread, htops⟩ := (Option.any_eq_true _ _).mp htops
  obtain ⟨hparam, hno⟩ := of_decide_eq_true htops
  have hhands : Hands including {} { content := bareSource } "main" withParam [] :=
    hands_of_expose (generates_including bareSource) (eq_ok_of_toOption hown)
      (eq_ok_of_toOption hexpose)
  exact ⟨g, generates_including bareSource, hread, hbinds, hparam, by decide, hhands, hno⟩

end Artifact

end Conformity
