import TensorShader.Kernel.Cache
import TensorShader.Proofs.Except
import Mathlib.Data.Finset.Card
import Mathlib.Data.Finset.Dedup

/-! The history of a cache that several assemblers share, each with its own operators. A key is
served the kernel that was compiled for it first since the cache was last cleared, and the cache
holds one kernel for each key that has been served since then. -/

namespace TensorShader

inductive CacheCall where
  | compile (a : Assembler) (ops : Catalog) (key : KernelKey)
  | clear

/-- What a use of a cache came to. -/
inductive CacheEvent where
  | served (key : KernelKey) (k : Compiled)
  | refused (key : KernelKey) (e : Error)
  | cleared

/-- The kernels served since the last clearing with their keys, in order. -/
def CacheEvent.live (history : List CacheEvent) : List (KernelKey × Compiled) :=
  history.foldl (fun pairs event =>
    match event with
    | .served key k => pairs ++ [(key, k)]
    | .refused _ _ => pairs
    | .cleared => []) []

namespace KernelCache

open CacheEvent (live)

/-- What a use of a cache comes to, and the cache after it. -/
def step (c : KernelCache) : CacheCall → CacheEvent × KernelCache
  | .compile a ops key =>
    match c.getOrCompile a ops key with
    | (.ok k, c) => (.served key k, c)
    | (.error e, c) => (.refused key e, c)
  | .clear => (.cleared, c.clear)

/-- What the uses of a cache come to that is empty at first, and the cache after them. -/
def run (calls : List CacheCall) : List CacheEvent × KernelCache :=
  calls.foldl (fun (history, c) call => (history ++ [(c.step call).1], (c.step call).2)) ([], empty)

theorem run_concat (calls : List CacheCall) (call : CacheCall) :
    run (calls ++ [call]) = ((run calls).1 ++ [((run calls).2.step call).1],
      ((run calls).2.step call).2) := by
  rw [run, List.foldl_append]
  rfl

/-- A cache after a history: it finds the kernel that a key was served first since the last
clearing, it has one kernel for each key served since then, and all kernels ever served are counted
in it. -/
structure Records (c : KernelCache) (history : List CacheEvent) : Prop where
  find?_eq : ∀ key, c.find? key = (live history).lookup key
  size_eq : c.size = ((live history).map Prod.fst).toFinset.card
  serial_lt : ∀ key k, .served key k ∈ history → k.serial < c.compiled

variable {c c' : KernelCache} {history : List CacheEvent} {a : Assembler} {ops : Catalog}
  {key : KernelKey} {k : Compiled} {kernel : Kernel} {e : Error}

theorem live_served : live (history ++ [.served key k]) = live history ++ [(key, k)] := by
  rw [live, List.foldl_append]
  rfl

theorem lookup_live_served (other : KernelKey) :
    (live (history ++ [.served key k])).lookup other =
      ((live history).lookup other).or (if other = key then some k else none) := by
  rw [live_served, List.lookup_append, List.lookup_cons, List.lookup_nil]
  by_cases h : other = key
  · simp [h]
  · simp [h, beq_eq_false_iff_ne.mpr h]

theorem live_refused : live (history ++ [.refused key e]) = live history := by
  rw [live, List.foldl_append]
  rfl

theorem live_cleared : live (history ++ [.cleared]) = [] := by
  rw [live, List.foldl_append]
  rfl

theorem served_mem_of_live (h : (key, k) ∈ live history) : .served key k ∈ history := by
  induction history using List.reverseRecOn with
  | nil => cases h
  | append_singleton history event ih =>
    cases event with
    | served other k' =>
      rw [live_served] at h
      rcases List.mem_append.mp h with h | h
      · exact List.mem_append_left _ (ih h)
      · cases List.mem_singleton.mp h
        simp
    | refused other e =>
      rw [live_refused] at h
      exact List.mem_append_left _ (ih h)
    | cleared =>
      rw [live_cleared] at h
      cases h

theorem getOrCompile_of_find? (h : c.find? key = some k) :
    c.getOrCompile a ops key = (.ok k, c) := by
  rw [getOrCompile, h]

/-- What can be compiled is served. -/
theorem exists_served
    (hkernel : ∃ kernel, a.compile ops key.operator key.params key.shapes = .ok kernel) :
    ∃ k c₁, c.getOrCompile a ops key = (.ok k, c₁) := by
  rcases c.getOrCompile_cases a ops key with
    ⟨k, -, hserve⟩ | ⟨-, ⟨kernel, -, hserve⟩ | ⟨e, herror, -⟩⟩
  · exact ⟨k, c, hserve⟩
  · exact ⟨_, _, hserve⟩
  · obtain ⟨kernel, hkernel⟩ := hkernel
    rw [hkernel] at herror
    cases herror

namespace Records

theorem empty : KernelCache.empty.Records [] := ⟨fun _ => rfl, rfl, fun _ _ h => nomatch h⟩

theorem clear (h : c.Records history) : c.clear.Records (history ++ [.cleared]) := by
  refine ⟨fun key => ?_, ?_, fun key k hk => ?_⟩
  · rw [find?_clear, live_cleared]
    rfl
  · rw [live_cleared]
    rfl
  · exact h.serial_lt key k (by simpa using hk)

theorem refuse (h : c.Records history) : c.Records (history ++ [.refused key e]) := by
  refine ⟨fun other => ?_, ?_, fun other k hk => ?_⟩
  · rw [live_refused, h.find?_eq]
  · rw [live_refused, h.size_eq]
  · exact h.serial_lt other k (by simpa using hk)

theorem serve (h : c.Records history) (hk : c.find? key = some k) :
    c.Records (history ++ [.served key k]) := by
  have hlive : (live history).lookup key = some k := h.find?_eq key ▸ hk
  have hmem := Registry.mem_of_lookup hlive
  refine ⟨fun other => ?_, ?_, fun other k' hk' => ?_⟩
  · rw [lookup_live_served, h.find?_eq]
    by_cases hother : other = key
    · rw [hother, hlive]
      rfl
    · rw [if_neg hother, Option.or_none]
  · have hkey : key ∈ ((live history).map Prod.fst).toFinset :=
      List.mem_toFinset.mpr (List.mem_map_of_mem hmem)
    rw [live_served, List.map_append, List.toFinset_append, h.size_eq]
    simp [hkey]
  · rcases List.mem_append.mp hk' with hk' | hk'
    · exact h.serial_lt other k' hk'
    · cases List.mem_singleton.mp hk'
      exact h.serial_lt key k (served_mem_of_live hmem)

theorem add (h : c.Records history) (hk : c.find? key = none) (kernel : Kernel) :
    (c.add key kernel).Records (history ++ [.served key ⟨c.compiled, kernel⟩]) := by
  have hlive : (live history).lookup key = none := h.find?_eq key ▸ hk
  refine ⟨fun other => ?_, ?_, fun other k hk => ?_⟩
  · rw [find?_add, lookup_live_served, h.find?_eq]
    by_cases hother : other = key
    · rw [hother, hlive, if_pos rfl]
      rfl
    · rw [if_neg hother, if_neg hother, Option.or_none]
  · have hnew : key ∉ ((live history).map Prod.fst).toFinset := by
      rw [List.mem_toFinset, List.mem_map]
      rintro ⟨⟨_, k⟩, hmem, rfl⟩
      have hne := List.lookup_eq_none_iff.mp hlive _ hmem
      simp at hne
    calc (c.add key kernel).size
        = c.size + 1 := rfl
      _ = (insert key ((live history).map Prod.fst).toFinset).card := by
          rw [Finset.card_insert_of_notMem hnew, h.size_eq]
      _ = _ := by
          rw [live_served, List.map_append, List.toFinset_append, Finset.union_comm]
          rfl
  · rcases List.mem_append.mp hk with hk | hk
    · exact Nat.lt_succ_of_lt (h.serial_lt other k hk)
    · cases List.mem_singleton.mp hk
      exact Nat.lt_succ_self c.compiled

theorem step (h : c.Records history) (call : CacheCall) :
    (c.step call).2.Records (history ++ [(c.step call).1]) := by
  cases call with
  | clear => exact h.clear
  | compile a ops key =>
    rw [KernelCache.step]
    rcases c.getOrCompile_cases a ops key with
      ⟨k, hk, hserve⟩ | ⟨hk, ⟨kernel, -, hserve⟩ | ⟨e, -, hserve⟩⟩ <;> rw [hserve]
    · exact h.serve hk
    · exact h.add hk kernel
    · exact h.refuse

theorem run (calls : List CacheCall) :
    (KernelCache.run calls).2.Records (KernelCache.run calls).1 := by
  induction calls using List.reverseRecOn with
  | nil => exact empty
  | append_singleton calls call ih =>
    rw [run_concat]
    exact ih.step call

end Records

/-- After any uses of a cache, a call for a key is answered with the kernel that the first
successful call for the key since the last clearing was answered with, whatever assembler and
operators it comes with; and if there was none, with what the assembler makes of the operator under
the name. A new kernel is added to the cache under a number that no kernel had before, and an error
leaves the cache as it is. The cache has as many kernels as keys have been served since the last
clearing. -/
theorem run_step (calls : List CacheCall) (a : Assembler) (ops : Catalog) (key : KernelKey) :
    (run calls).2.step (.compile a ops key) =
      (match (live (run calls).1).lookup key with
      | some k => (.served key k, (run calls).2)
      | none =>
        match ops.lookup key.operator >>= fun op => a.assemble op key.params key.shapes with
        | .ok kernel =>
          (.served key ⟨(run calls).2.compiled, kernel⟩, (run calls).2.add key kernel)
        | .error e => (.refused key e, (run calls).2)) ∧
    (∀ other k, .served other k ∈ (run calls).1 → k.serial < (run calls).2.compiled) ∧
    (run calls).2.size = ((live (run calls).1).map Prod.fst).toFinset.card := by
  have h := Records.run calls
  refine ⟨?_, h.serial_lt, h.size_eq⟩
  have hcompile : a.compile ops key.operator key.params key.shapes =
      ops.lookup key.operator >>= fun op => a.assemble op key.params key.shapes := rfl
  rw [← h.find?_eq, ← hcompile, step]
  rcases (run calls).2.getOrCompile_cases a ops key with
    ⟨k, hk, hserve⟩ | ⟨hk, ⟨kernel, hkernel, hserve⟩ | ⟨e, herror, hserve⟩⟩
  · rw [hk, hserve]
  · rw [hk, hserve, hkernel]
  · rw [hk, hserve, herror]

end KernelCache

end TensorShader
