import TensorShader.Proofs.Kernel.Acceptance
import TensorShader.Proofs.Kernel.History
import TensorShader.Proofs.NameMap.Writes
import TensorShader.Proofs.Registry.AppendOnly

/-! Which calls share an entry of a cache: those for one name whose parameters and shapes have the
same values at last, in whatever order they were written. Others get kernels of their own. -/

namespace TensorShader

open NameMap (SameLast lastWritten?)

/-- The shapes for an output when those of the operands are given one after the other. -/
def OperandShapes.ofList (output : Shape) (pairs : List (String × Shape)) : OperandShapes :=
  pairs.foldl (fun shapes p => shapes.input p.1 p.2) (.ofOutput output)

theorem OperandShapes.ofList_eq (output : Shape) (pairs : List (String × Shape)) :
    ofList output pairs = ⟨.ofList pairs, output⟩ := by
  induction pairs using List.reverseRecOn with
  | nil => rfl
  | append_singleton pairs p ih =>
    rw [ofList, List.foldl_append, NameMap.ofList_concat, ← ofList, ih]
    rfl

theorem OperandShapes.ofList_eq_iff {o o' : Shape} {ss ts : List (String × Shape)} :
    ofList o ss = ofList o' ts ↔ o = o' ∧ SameLast ss ts := by
  rw [ofList_eq, ofList_eq, OperandShapes.mk.injEq, NameMap.ofList_eq_iff, and_comm]

namespace KernelKey

/-- What is asked for when parameters and shapes are given one after the other. -/
def written (operator : String) (params : List (String × Param)) (output : Shape)
    (shapes : List (String × Shape)) : KernelKey :=
  ⟨operator, .ofList params, .ofList output shapes⟩

theorem written_eq_iff {operator operator' : String} {ps qs : List (String × Param)} {o o' : Shape}
    {ss ts : List (String × Shape)} :
    written operator ps o ss = written operator' qs o' ts ↔
      operator = operator' ∧ SameLast ps qs ∧ o = o' ∧ SameLast ss ts := by
  rw [written, written, KernelKey.mk.injEq, NameMap.ofList_eq_iff, OperandShapes.ofList_eq_iff]

end KernelKey

namespace KernelCache

/-- The cache after it has been used. -/
def after (c : KernelCache) (calls : List CacheCall) : KernelCache :=
  calls.foldl (fun c call => (c.step call).2) c

variable {c c' : KernelCache} {a : Assembler} {ops : Catalog} {key key' : KernelKey}
  {k k' : Compiled}

/-- A key that was served is found afterwards, and nothing changes under the others. -/
theorem find?_of_getOrCompile (h : c.getOrCompile a ops key = (.ok k, c')) (other : KernelKey) :
    c'.find? other = if other = key then some k else c.find? other := by
  rcases c.getOrCompile_cases a ops key with
    ⟨found, hfind, hserve⟩ | ⟨-, ⟨kernel, -, hserve⟩ | ⟨e, -, hserve⟩⟩ <;> rw [hserve] at h <;>
    cases h
  · split
    · rename_i heq
      rw [heq, hfind]
    · rfl
  · exact find?_add c key other kernel

/-- What is found under a key stays until the cache is cleared. -/
theorem find?_step (h : c.find? key = some k) {call : CacheCall} (hcall : call ≠ .clear) :
    (c.step call).2.find? key = some k := by
  cases call with
  | clear => exact absurd rfl hcall
  | compile a ops other =>
    rw [step]
    rcases c.getOrCompile_cases a ops other with
      ⟨found, -, hserve⟩ | ⟨hnone, ⟨kernel, -, hserve⟩ | ⟨e, -, hserve⟩⟩ <;> rw [hserve]
    · exact h
    · -- a kernel is added only under a key that has none
      have hne : key ≠ other := by
        rintro rfl
        rw [hnone] at h
        cases h
      exact (find?_add c other key kernel).trans ((if_neg hne).trans h)
    · exact h

theorem find?_after (h : c.find? key = some k) {calls : List CacheCall} (hcalls : .clear ∉ calls) :
    (c.after calls).find? key = some k := by
  induction calls generalizing c with
  | nil => exact h
  | cons call calls ih =>
    rw [List.mem_cons, not_or] at hcalls
    exact ih (find?_step h (Ne.symm hcalls.1)) hcalls.2

/-- No two keys are served kernels with one number. -/
def Numbered (history : List CacheEvent) : Prop :=
  ∀ key key' k k', .served key k ∈ history → .served key' k' ∈ history →
    k.serial = k'.serial → key = key'

theorem Numbered.concat {history : List CacheEvent} {event : CacheEvent} (h : Numbered history)
    (hevent : ∀ key k, event = .served key k → .served key k ∈ history ∨
      ∀ key' k', .served key' k' ∈ history → k'.serial ≠ k.serial) :
    Numbered (history ++ [event]) := by
  intro key key' k k' hk hk' hserial
  rcases List.mem_append.mp hk with hk | hk <;> rcases List.mem_append.mp hk' with hk' | hk'
  · exact h _ _ _ _ hk hk' hserial
  · rcases hevent key' k' (List.mem_singleton.mp hk').symm with hold | hnew
    · exact h _ _ _ _ hk hold hserial
    · exact absurd hserial (hnew key k hk)
  · rcases hevent key k (List.mem_singleton.mp hk).symm with hold | hnew
    · exact h _ _ _ _ hold hk' hserial
    · exact absurd hserial.symm (hnew key' k' hk')
  · cases (List.mem_singleton.mp hk).trans (List.mem_singleton.mp hk').symm
    rfl

/-- A kernel that is served was served before under the same key, or its number is a new one. -/
theorem Records.served_step {history : List CacheEvent} (h : c.Records history) {call : CacheCall}
    (hserved : (c.step call).1 = .served key k) :
    .served key k ∈ history ∨ ∀ key' k', .served key' k' ∈ history → k'.serial ≠ k.serial := by
  cases call with
  | clear => cases hserved
  | compile a ops other =>
    rw [KernelCache.step] at hserved
    rcases c.getOrCompile_cases a ops other with
      ⟨found, hfind, hserve⟩ | ⟨-, ⟨kernel, -, hserve⟩ | ⟨e, -, hserve⟩⟩ <;>
      rw [hserve] at hserved <;> cases hserved
    · exact .inl (served_mem_of_live (Registry.mem_of_lookup (h.find?_eq _ ▸ hfind)))
    · exact .inr fun key' k' hk' => Nat.ne_of_lt (h.serial_lt key' k' hk')

theorem numbered_run (calls : List CacheCall) : Numbered (run calls).1 := by
  induction calls using List.reverseRecOn with
  | nil => exact fun _ _ _ _ h => nomatch h
  | append_singleton calls call ih =>
    rw [run_concat]
    exact ih.concat fun key k hevent => (Records.run calls).served_step hevent

variable (operator : String) (ps qs : List (String × Param)) (o o' : Shape)
  (ss ts : List (String × Shape))

/-- The order in which parameters and shapes are written is not seen. If each name has the same
value at last, the entries of the parameters are the same, in ascending order and with these values;
every operator is assembled alike; and a call for one is answered with the kernel that a call for
the other was answered with, as long as the cache is not cleared. If some last value differs, the
calls have different signatures, neither changes what is found for the other, and no kernel that one
of them is ever served has the number of one that the other is served. -/
theorem written_order_unseen :
    (SameLast ps qs ∧ SameLast ss ts ∧ o = o' →
      ((NameMap.ofList ps).entries = (NameMap.ofList qs).entries ∧
        (NameMap.ofList ps).entries.Pairwise (fun a b => a.1 < b.1) ∧
        ∀ name x, (name, x) ∈ (NameMap.ofList ps).entries ↔ lastWritten? ps name = some x) ∧
      (∀ (a : Assembler) (op : Operator), a.assemble op (.ofList ps) (.ofList o ss) =
        a.assemble op (.ofList qs) (.ofList o' ts)) ∧
      ∀ (c c₁ : KernelCache) (a a' : Assembler) (ops ops' : Catalog) (k : Compiled),
        c.getOrCompile a ops (.written operator ps o ss) = (.ok k, c₁) →
        ∀ calls, .clear ∉ calls →
          (c₁.after calls).getOrCompile a' ops' (.written operator qs o' ts) =
            (.ok k, c₁.after calls)) ∧
    (¬(SameLast ps qs ∧ SameLast ss ts ∧ o = o') →
      (KernelKey.written operator ps o ss).signature ≠
        (KernelKey.written operator qs o' ts).signature ∧
      (∀ (c c₁ : KernelCache) (a : Assembler) (ops : Catalog) (k : Compiled),
        c.getOrCompile a ops (.written operator ps o ss) = (.ok k, c₁) →
        c₁.find? (.written operator qs o' ts) = c.find? (.written operator qs o' ts)) ∧
      ∀ calls k k', .served (.written operator ps o ss) k ∈ (run calls).1 →
        .served (.written operator qs o' ts) k' ∈ (run calls).1 → k.serial ≠ k'.serial) := by
  constructor
  · rintro ⟨hparams, hshapes, rfl⟩
    have hps : NameMap.ofList ps = NameMap.ofList qs := NameMap.ofList_eq_iff.2 hparams
    have hss : OperandShapes.ofList o ss = OperandShapes.ofList o ts :=
      OperandShapes.ofList_eq_iff.2 ⟨rfl, hshapes⟩
    refine ⟨⟨by rw [hps], (NameMap.ofList ps).ascending, fun name x => ?_⟩,
      fun a op => by rw [hps, hss], fun c c₁ a a' ops ops' k h calls hcalls => ?_⟩
    · rw [NameMap.mem_entries_iff, NameMap.find?_ofList]
    · have hkey : KernelKey.written operator qs o ts = .written operator ps o ss :=
        congrArg₂ (KernelKey.mk operator) hps.symm hss.symm
      have hfind := find?_of_getOrCompile h (.written operator ps o ss)
      rw [if_pos rfl] at hfind
      rw [hkey]
      exact getOrCompile_of_find? (find?_after hfind hcalls)
  · intro hdiffer
    have hne : KernelKey.written operator ps o ss ≠ .written operator qs o' ts := fun heq => by
      obtain ⟨-, hparams, houtput, hshapes⟩ := KernelKey.written_eq_iff.1 heq
      exact hdiffer ⟨hparams, hshapes, houtput⟩
    refine ⟨fun heq => hne (KernelKey.signature_inj.1 heq), fun c c₁ a ops k h => ?_,
      fun calls k k' hk hk' hserial => hne (numbered_run calls _ _ _ _ hk hk' hserial)⟩
    rw [find?_of_getOrCompile h, if_neg (Ne.symm hne)]

/-- Half of the channels is asked for, in two orders, and with an axis that is not an integer. -/
def halfWrites : List (String × Param) :=
  [("axis", .int 1), ("offset", .int 2), ("axis", .int (-3))]

def halfReordered : List (String × Param) := [("offset", .int 2), ("axis", .int (-3))]

def halfInexact : List (String × Param) :=
  [("offset", .int 2), ("axis", .float ⟨0xc008000000000000⟩)]

def halfInput : List (String × Shape) := [("X", .scalar), ("X", ⟨⟨1, 4, 3, 5⟩⟩)]

theorem exists_served_half : ∃ k c₁,
    empty.getOrCompile (.ofConfig Operator.smallDevice) .builtin
      (.written "split" halfWrites ⟨⟨1, 2, 3, 5⟩⟩ halfInput) = (.ok k, c₁) := by
  have hop : Operator.split ∈ Operator.builtins := by simp [Operator.builtins]
  have hkey : KernelKey.written "split" halfWrites ⟨⟨1, 2, 3, 5⟩⟩ halfInput =
      ⟨"split", Operator.halfParams, Operator.halfShapes⟩ := rfl
  have hlookup : Catalog.builtin.lookup "split" = .ok Operator.split := by
    rw [Catalog.lookup, Registry.find?, Catalog.entries_builtin]
    rfl
  obtain ⟨kernel, hkernel⟩ := (Operator.exists_kernel_iff
    (a := .ofConfig Operator.smallDevice) hop .refl).2 Operator.accepts_half
  rw [hkey]
  exact exists_served ⟨kernel, bind_eq_ok_iff.2 ⟨Operator.split, hlookup, hkernel⟩⟩

/-- The second call for half of the channels is served the kernel of the first; one whose axis is
not an integer has an entry of its own. -/
theorem written_order_unseen_half :
    (∃ k c₁, empty.getOrCompile (.ofConfig Operator.smallDevice) .builtin
        (.written "split" halfWrites ⟨⟨1, 2, 3, 5⟩⟩ halfInput) = (.ok k, c₁) ∧
      c₁.getOrCompile (.ofConfig Operator.smallDevice) .builtin
        (.written "split" halfReordered ⟨⟨1, 2, 3, 5⟩⟩ halfInput.tail) = (.ok k, c₁)) ∧
    (KernelKey.written "split" halfWrites ⟨⟨1, 2, 3, 5⟩⟩ halfInput).signature ≠
      (KernelKey.written "split" halfInexact ⟨⟨1, 2, 3, 5⟩⟩ halfInput).signature := by
  constructor
  · obtain ⟨k, c₁, hserved⟩ := exists_served_half
    have hparams : SameLast halfWrites halfReordered := NameMap.ofList_eq_iff.1 (by decide)
    have hshapes : SameLast halfInput halfInput.tail := NameMap.ofList_eq_iff.1 (by decide)
    obtain ⟨-, -, hshared⟩ := (written_order_unseen "split" _ _ ⟨⟨1, 2, 3, 5⟩⟩ _ _ _).1
      ⟨hparams, hshapes, rfl⟩
    exact ⟨k, c₁, hserved, hshared _ _ _ _ _ _ _ hserved [] List.not_mem_nil⟩
  · have hdiffer : ¬SameLast halfWrites halfInexact := mt NameMap.ofList_eq_iff.2 (by decide)
    exact ((written_order_unseen "split" _ _ _ _ _ _).2 fun h => hdiffer h.1).1

end KernelCache

end TensorShader
