import TensorShader.Proofs.Operator.Body
import TensorShader.Proofs.Template.Reads

/-! What the body of an operator reads of its parameters. If its template and its checks ask for
declared parameters only, then what else is given makes no difference to the body, nor to the error
if there is none. -/

namespace TensorShader

/-- The parameters are the same under the given names. -/
def Params.AgreeOn (names : List String) (ps ps' : Params) : Prop :=
  ∀ name ∈ names, ps.find? name = ps'.find? name

theorem Params.int_congr {ps ps' : Params} {name : String} (h : ps.find? name = ps'.find? name)
    (operator : String) : ps.int operator name = ps'.int operator name := by
  rw [Params.int, Params.int, h]

/-- Contexts that differ in their parameters, but not in those under the given names, agree on what a
template can ask of them. -/
theorem BodyContext.agreeOn_value {ctx : BodyContext} {ps : Params} {names : List String}
    (h : ctx.params.AgreeOn names ps)
    (more : List (String × Template.Value)) :
    Template.AgreeOn "params" names (ctx.value more) ({ ctx with params := ps }.value more) := by
  refine ⟨fun name hname => ?_, fun name hname => ?_⟩
  · have hfield : (ctx.value more).field? name =
        ({ ctx with params := ps }.value more).field? name := by
      simp only [BodyContext.value, Template.Value.field?, List.cons_append,
        NameMap.lookup_cons_ite, if_neg hname]
    rw [Template.Value.resolve, Template.Value.resolve, hfield]
  · have hparams : (ctx.params.value Param.value).field name =
        (ps.value Param.value).field name := by
      rw [Template.Value.field, Template.Value.field, NameMap.field?_value, NameMap.field?_value,
        h name hname]
    exact congrArg Except.ok hparams

namespace RuledOperator

/-- The operator asks for parameters that it declares, and for no others: in its template, for the
axis of a broadcast, and for the slice that it checks. -/
structure AsksDeclared (op : RuledOperator) : Prop where
  template : ∀ t, Template.parse op.template = .ok t →
    t.asksOnly "params" op.descriptor.params = true
  broadcast : op.descriptor.broadcasts = true → "axis" ∈ op.descriptor.params
  slice : op.rule = .split → "axis" ∈ op.descriptor.params ∧ "offset" ∈ op.descriptor.params

variable {op : RuledOperator} {ctx : BodyContext} {ps ps' : Params} {t : LayoutTable}

theorem AsksDeclared.additions_eq (hop : op.AsksDeclared)
    (h : ctx.params.AgreeOn op.descriptor.params ps) :
    op.rule.additions op.descriptor.name ctx =
      op.rule.additions op.descriptor.name { ctx with params := ps } := by
  unfold BodyRule.additions
  cases hrule : op.rule with
  | plain => rfl
  | elementwise a => rfl
  | split =>
    obtain ⟨haxis, hoffset⟩ := hop.slice hrule
    simp only [Operator.splitAxis, Params.int_congr (h _ haxis), Params.int_congr (h _ hoffset)]

/-- A body depends on the declared parameters only. -/
theorem AsksDeclared.renderBody_eq (hop : op.AsksDeclared) (ctx : BodyContext)
    (h : ctx.params.AgreeOn op.descriptor.params ps) :
    op.renderBody ctx = op.renderBody { ctx with params := ps } := by
  have hrender (more : List (String × Template.Value)) :
      Template.render op.template (ctx.value more) =
        Template.render op.template ({ ctx with params := ps }.value more) := by
    unfold Template.render
    cases hparse : Template.parse op.template with
    | error fault => rfl
    | ok t => exact (BodyContext.agreeOn_value h more).fill_eq (hop.template t hparse)
  rw [op.renderBody_eq]
  unfold BodyRule.render
  rw [hop.additions_eq h]
  simp only [renderNamed, hrender]

/-- So does what becomes of layouts and parameters, also where it is an error. -/
theorem AsksDeclared.body_eq (hop : op.AsksDeclared)
    (h : ps.AgreeOn op.descriptor.params ps') (t : LayoutTable) :
    BodyContext.of op.descriptor t ps >>= op.renderBody =
      BodyContext.of op.descriptor t ps' >>= op.renderBody := by
  have hbody (args : Option String) : op.renderBody ⟨op.descriptor.name, t, ps, args⟩ =
      op.renderBody ⟨op.descriptor.name, t, ps', args⟩ :=
    hop.renderBody_eq ⟨op.descriptor.name, t, ps, args⟩ h
  unfold BodyContext.of
  split
  · rename_i hbroadcasts
    rw [Params.int_congr (h _ (hop.broadcast hbroadcasts))]
    cases ps'.int op.descriptor.name "axis" with
    | error e => rfl
    | ok axis => exact hbody _
  · exact hbody none

end RuledOperator

end TensorShader
