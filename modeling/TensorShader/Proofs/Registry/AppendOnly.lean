import TensorShader.Operator.Catalog
import TensorShader.Proofs.Plan.Registration
import TensorShader.Proofs.Text.Bytes
import TensorShader.Subroutine.Addressing
import Mathlib.Data.Finset.Card
import Mathlib.Data.List.Sort

/-! What is in a registry after entries were offered to it one after the other: under each name the
first. This holds of catalogs and of libraries, and for both a registration fails exactly if its
name is taken. -/

namespace TensorShader

open Subroutine (Instance)

namespace Registry

variable {α : Type} {r : Registry α} {e : String × α} {es : List (String × α)} {name : String}

/-- The registry with an entry added, unless its name is taken. -/
def offer (r : Registry α) (e : String × α) : Registry α := (r.register e.1 e.2 ()).2

/-- The registry to which entries were offered one after the other. -/
def offerEach (r : Registry α) (es : List (String × α)) : Registry α := es.foldl offer r

theorem lookup_eq_none_iff : es.lookup name = none ↔ name ∉ es.map Prod.fst := by
  refine ⟨lookup_eq_none, fun h => ?_⟩
  cases hx : es.lookup name with
  | none => rfl
  | some x => exact absurd (List.mem_map_of_mem (mem_of_lookup hx)) h

theorem offer_of_mem (h : e.1 ∈ r.entries.map Prod.fst) : r.offer e = r := by
  have hfind : r.find? e.1 ≠ none := fun hnone => lookup_eq_none_iff.1 hnone h
  rw [offer, register_of_find?_ne_none hfind]

theorem entries_offer_of_notMem (h : e.1 ∉ r.entries.map Prod.fst) :
    (r.offer e).entries = r.entries ++ [e] := by
  have hfind : r.find? e.1 = none := lookup_eq_none_iff.2 h
  rw [offer, register_of_find?_none hfind, insertNew]

/-- Registration fails exactly if the name is taken, and then nothing changes. -/
theorem register_eq {ε : Type} (r : Registry α) (e : String × α) (taken : ε) :
    r.register e.1 e.2 taken =
      if e.1 ∈ r.entries.map Prod.fst then (.error taken, r) else (.ok (), r.offer e) := by
  split_ifs with h
  · exact register_of_find?_ne_none (fun hnone => lookup_eq_none_iff.1 hnone h) _ _
  · have hfind : r.find? e.1 = none := lookup_eq_none_iff.2 h
    rw [offer, register_of_find?_none hfind, register_of_find?_none hfind]

/-- An entry that is offered comes after those that are there. -/
theorem find?_offer (r : Registry α) (e : String × α) (name : String) :
    (r.offer e).find? name = (r.entries ++ [e]).lookup name := by
  by_cases h : e.1 ∈ r.entries.map Prod.fst
  · rw [offer_of_mem h, find?, List.lookup_append]
    cases hx : r.entries.lookup name with
    | some x => rfl
    | none =>
      have hne : name ≠ e.1 := fun heq => lookup_eq_none_iff.1 hx (heq ▸ h)
      exact (lookup_eq_none_iff.2 (by simpa using hne)).symm
  · rw [find?, entries_offer_of_notMem h]

theorem offerEach_cons (r : Registry α) (e : String × α) (es : List (String × α)) :
    r.offerEach (e :: es) = (r.offer e).offerEach es := rfl

theorem offerEach_concat (r : Registry α) (es : List (String × α)) (e : String × α) :
    r.offerEach (es ++ [e]) = (r.offerEach es).offer e := by
  rw [offerEach, List.foldl_append]
  rfl

theorem find?_offerEach (r : Registry α) (es : List (String × α)) (name : String) :
    (r.offerEach es).find? name = (r.entries ++ es).lookup name := by
  induction es generalizing r with
  | nil => rw [List.append_nil]; rfl
  | cons e es ih =>
    rw [offerEach_cons, ih, List.lookup_append, ← find?, find?_offer, ← List.lookup_append,
      List.append_assoc, List.singleton_append]

/-- The names that are taken are those that were offered. -/
theorem mem_entries_offerEach : name ∈ (r.offerEach es).entries.map Prod.fst ↔
    name ∈ (r.entries ++ es).map Prod.fst := by
  rw [← not_iff_not, ← lookup_eq_none_iff, ← lookup_eq_none_iff, ← find?_offerEach, find?]

theorem size_offerEach (r : Registry α) (es : List (String × α)) :
    (r.offerEach es).size = ((r.entries ++ es).map Prod.fst).toFinset.card := by
  have hsame : ((r.entries ++ es).map Prod.fst).toFinset =
      ((r.offerEach es).entries.map Prod.fst).toFinset := by
    ext name
    rw [List.mem_toFinset, List.mem_toFinset, mem_entries_offerEach]
  rw [hsame, List.toFinset_card_of_nodup (r.offerEach es).nodup, List.length_map, size]

theorem mem_names_iff : name ∈ r.names ↔ name ∈ r.entries.map Prod.fst := List.mem_mergeSort

/-- The names are listed in the order of their bytes, each once. -/
theorem names_ascending (r : Registry α) :
    r.names.Pairwise fun a b => utf8Bytes a < utf8Bytes b := by
  have hsorted : r.names.Pairwise (· ≤ ·) := List.pairwise_mergeSort' (· ≤ ·) _
  have hnodup : r.names.Nodup := (List.mergeSort_perm _ _).nodup_iff.2 r.nodup
  exact (hsorted.and hnodup).imp fun h => utf8Bytes_lt_iff.2 (lt_of_le_of_ne h.1 h.2)

end Registry

namespace Catalog

/-- A registration: of an operator under the name that it declares, or under any name. -/
inductive Registration where
  | declared (op : Operator)
  | named (name : String) (op : Operator)

/-- The entry that a registration asks for. -/
def Registration.entry : Registration → String × Operator
  | .declared op => (op.descriptor.name, op)
  | .named name op => (name, op)

def perform (c : Catalog) : Registration → Except Error Unit × Catalog
  | .declared op => c.register op
  | .named name op => c.registerAs name op

/-- The catalog after registrations one after the other, which go on when one fails. -/
def performEach (c : Catalog) : List Registration → Catalog
  | [] => c
  | r :: rs => (c.perform r).2.performEach rs

theorem perform_eq (c : Catalog) (r : Registration) :
    c.perform r = if r.entry.1 ∈ c.entries.map Prod.fst
      then (.error (.duplicateOperator r.entry.1), c) else (.ok (), c.offer r.entry) := by
  have hentry : c.perform r = c.registerAs r.entry.1 r.entry.2 := by cases r <;> rfl
  rw [hentry, registerAs, Registry.register_eq]

/-- The entries of a catalog, and those that registrations with it ask for, in their order. -/
def offered (base : Catalog) (done : List Registration) : List (String × Operator) :=
  base.entries ++ done.map (·.entry)

theorem performEach_eq (c : Catalog) (rs : List Registration) :
    c.performEach rs = c.offerEach (rs.map (·.entry)) := by
  induction rs generalizing c with
  | nil => rfl
  | cons r rs ih =>
    rw [performEach, perform_eq, List.map_cons, Registry.offerEach_cons, ← ih]
    split_ifs with h
    · rw [Registry.offer_of_mem h]
    · rfl

theorem performEach_concat (c : Catalog) (rs : List Registration) (r : Registration) :
    c.performEach (rs ++ [r]) = (c.performEach rs).offer r.entry := by
  rw [performEach_eq, performEach_eq, List.map_append, List.map_singleton,
    Registry.offerEach_concat]

/-- Operators that are registered in turn are all added. If the name of one is taken, the first such
one ends it: those before it are added, and the error is about its name. -/
theorem registerAll_cases (c : Catalog) (es : List (String × Operator)) :
    ((c.registerAll es).1 = .ok () ∧ (c.registerAll es).2.entries = c.entries ++ es) ∨
      ∃ before e after, es = before ++ e :: after ∧ e.1 ∈ (c.entries ++ before).map Prod.fst ∧
        (c.registerAll es).1 = .error (.duplicateOperator e.1) ∧
        (c.registerAll es).2.entries = c.entries ++ before := by
  induction es generalizing c with
  | nil => exact .inl ⟨rfl, (List.append_nil _).symm⟩
  | cons e es ih =>
    obtain ⟨name, op⟩ := e
    by_cases h : name ∈ c.entries.map Prod.fst
    · have hstop : c.registerAll ((name, op) :: es) = (.error (.duplicateOperator name), c) := by
        rw [registerAll, registerAs, Registry.register_eq c (name, op), if_pos h]
      refine .inr ⟨[], (name, op), es, rfl, ?_, ?_, ?_⟩
      · rwa [List.append_nil]
      · rw [hstop]
      · rw [hstop, List.append_nil]
    · have hnext : c.registerAll ((name, op) :: es) = registerAll (c.offer (name, op)) es := by
        rw [registerAll, registerAs, Registry.register_eq c (name, op), if_neg h]
      have hentries (rest : List (String × Operator)) :
          (c.offer (name, op)).entries ++ rest = c.entries ++ (name, op) :: rest := by
        rw [Registry.entries_offer_of_notMem h, List.append_assoc, List.singleton_append]
      rw [hnext]
      rcases ih (c.offer (name, op)) with ⟨hok, hall⟩ | ⟨before, e, after, rfl, htaken, herror, hkept⟩
      · exact .inl ⟨hok, hall.trans (hentries es)⟩
      · refine .inr ⟨(name, op) :: before, e, after, rfl, ?_, herror, hkept.trans (hentries before)⟩
        rwa [← hentries]

/-- The operators that come with the library have different names, so all of them are there. -/
theorem entries_builtin : builtin.entries = inventory := by
  have hnodup : (inventory.map Prod.fst).Nodup := by decide
  rcases registerAll_cases .empty inventory with ⟨-, hall⟩ | ⟨before, e, after, heq, htaken, -⟩
  · exact hall
  · rw [heq, List.map_append] at hnodup
    obtain ⟨-, -, hdisjoint⟩ := List.nodup_append.1 hnodup
    exact absurd rfl (hdisjoint e.1 htaken e.1 List.mem_cons_self)

end Catalog

namespace Library

/-- The entry that the registration of a subroutine asks for. -/
def entry (s : Subroutine) : String × Subroutine := (s.name, s)

theorem register_eq (lib : Library) (s : Subroutine) :
    lib.register s = if s.name ∈ lib.entries.map Prod.fst
      then (.error (.duplicateSubroutine s.name), lib) else (.ok (), lib.offer (entry s)) :=
  Registry.register_eq lib (entry s) _

/-- The entries of a library, and those that registrations with it ask for, in their order. -/
def offered (base : Library) (done : List Subroutine) : List (String × Subroutine) :=
  base.entries ++ done.map entry

theorem registerEach_eq (lib : Library) (ss : List Subroutine) :
    lib.registerEach ss = lib.offerEach (ss.map entry) := by
  induction ss generalizing lib with
  | nil => rfl
  | cons s ss ih =>
    rw [registerEach, register_eq, List.map_cons, Registry.offerEach_cons, ← ih]
    split_ifs with h
    · rw [Registry.offer_of_mem (e := entry s) h]
    · rfl

theorem registerEach_concat (lib : Library) (ss : List Subroutine) (s : Subroutine) :
    lib.registerEach (ss ++ [s]) = (lib.registerEach ss).offer (entry s) := by
  rw [registerEach_eq, registerEach_eq, List.map_append, List.map_singleton,
    Registry.offerEach_concat]

end Library

/-- Registries are append-only, and the first registration under a name wins. After any
registrations with a catalog, empty or not, and likewise with a library, a further one fails exactly
if its name was given before, with an error about that name, and then changes nothing; a look-up
finds the first entry that was registered under a name, or says that there is none; and there are as
many entries as names were given, which a catalog lists in the order of their bytes. -/
theorem first_registration_wins (base : Catalog) (done : List Catalog.Registration)
    (lib : Library) (ss : List Subroutine) :
    ((∀ r : Catalog.Registration, (base.performEach done).perform r =
        if r.entry.1 ∈ (base.offered done).map Prod.fst
        then (.error (.duplicateOperator r.entry.1), base.performEach done)
        else (.ok (), base.performEach (done ++ [r]))) ∧
      (∀ r : Catalog.Registration, r.entry.1 ∈ (base.offered done).map Prod.fst →
        base.performEach (done ++ [r]) = base.performEach done) ∧
      (∀ name, (base.performEach done).lookup name =
        match (base.offered done).lookup name with
        | some op => .ok op
        | none => .error (.operatorNotFound name)) ∧
      (base.performEach done).size = ((base.offered done).map Prod.fst).toFinset.card ∧
      (∀ name, name ∈ (base.performEach done).names ↔ name ∈ (base.offered done).map Prod.fst) ∧
      (base.performEach done).names.Pairwise fun a b => utf8Bytes a < utf8Bytes b) ∧
    (∀ s : Subroutine, (lib.registerEach ss).register s =
        if s.name ∈ (lib.offered ss).map Prod.fst
        then (.error (.duplicateSubroutine s.name), lib.registerEach ss)
        else (.ok (), lib.registerEach (ss ++ [s]))) ∧
      (∀ s : Subroutine, s.name ∈ (lib.offered ss).map Prod.fst →
        lib.registerEach (ss ++ [s]) = lib.registerEach ss) ∧
      (∀ i : Instance, (lib.registerEach ss).lookup i =
        match (lib.offered ss).lookup i.name with
        | some s => if i.binding.isSome = s.bound then .ok s else
            .error (.bindingMismatch i.name (if s.bound then .missing else .superfluous))
        | none => .error (.unknownSubroutine i.name)) ∧
      (lib.registerEach ss).size = ((lib.offered ss).map Prod.fst).toFinset.card := by
  simp only [Catalog.performEach_concat, Library.registerEach_concat]
  -- both are now registries to which entries were offered
  simp only [Catalog.performEach_eq, Catalog.offered, Library.registerEach_eq, Library.offered]
  refine ⟨⟨fun r => ?_, fun r hr => ?_, fun name => ?_, ?_, fun name => ?_, ?_⟩,
    fun s => ?_, fun s hs => ?_, fun i => ?_, ?_⟩
  · rw [Catalog.perform_eq]
    exact if_congr Registry.mem_entries_offerEach rfl rfl
  · exact Registry.offer_of_mem (Registry.mem_entries_offerEach.2 hr)
  · have hfind := base.find?_offerEach (done.map (·.entry)) name
    cases hop : (base.entries ++ done.map (·.entry)).lookup name with
    | some op => rw [Catalog.lookup, hfind.trans hop]
    | none => rw [Catalog.lookup, hfind.trans hop]
  · exact Registry.size_offerEach _ _
  · rw [Registry.mem_names_iff, Registry.mem_entries_offerEach]
  · exact Registry.names_ascending _
  · rw [Library.register_eq]
    exact if_congr Registry.mem_entries_offerEach rfl rfl
  · exact Registry.offer_of_mem (e := Library.entry s) (Registry.mem_entries_offerEach.2 hs)
  · have hfind := lib.find?_offerEach (ss.map Library.entry) i.name
    cases hs : (lib.entries ++ ss.map Library.entry).lookup i.name with
    | some s => rw [Library.lookup_of_find? (hfind.trans hs)]
    | none => rw [Library.lookup, hfind.trans hs]
  · exact Registry.size_offerEach _ _

/-- Operators under their own names and others, of which the last is taken. -/
def renamed : List Catalog.Registration :=
  [.declared .split, .named "half" .split, .named "Half" .scale, .named "split" .scale]

/-- A subroutine under a name that the addressing library has, and a new one. -/
def redefined : List Subroutine :=
  [⟨"setOutput", false, [], "void setOutput() \x7b\x7d"⟩,
    ⟨"pi", false, [], "const float PI = 3.14159;"⟩]

/-- The operator under `split` stays what it was, and a further registration of it fails. The
addressing library keeps its own `setOutput` and has one subroutine more. -/
theorem first_registration_wins_renamed :
    (Catalog.performEach .empty renamed).perform (.declared .split) =
        (.error (.duplicateOperator "split"), Catalog.performEach .empty renamed) ∧
      (Catalog.performEach .empty renamed).lookup "split" = .ok .split ∧
      (Catalog.performEach .empty renamed).size = 3 ∧
      (Library.registerEach .addressing redefined).lookup ⟨"setOutput", none⟩ =
        .ok ⟨"setOutput", false, [], Library.setOutputSource⟩ ∧
      (Library.registerEach .addressing redefined).size = 8 := by
  obtain ⟨⟨hperform, -, hlookup, hsize, -⟩, -, -, hfound, hcount⟩ :=
    first_registration_wins .empty renamed .addressing redefined
  refine ⟨?_, ?_, ?_, ?_, ?_⟩
  · rw [hperform, if_pos (by decide)]
    rfl
  · rw [hlookup]
    rfl
  · rw [hsize]
    decide
  · rw [hfound]
    rfl
  · rw [hcount]
    decide

end TensorShader
