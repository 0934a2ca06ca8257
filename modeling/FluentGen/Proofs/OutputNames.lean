import FluentGen.Proofs.Numerals
import FluentGen.Report
import Mathlib.Order.Interval.Finset.Nat
/-!
# The names that are handed out

No name is handed out twice, whatever the builders are called. The search for a free number always
comes to an end: the numbers that it has tried belong to different names, of which there are no more
than have been asked for.

## Main definitions
* `FileNames.Finds`, `FileNames.Claims`: the search for a number, and one request, without a bound.
* `FileNames.Counted`: every number up to the counter is in a name that was handed out.
* `FileNames.plainName`: the name for a builder when no builder has a dot in its name.

## Main statements
* `FileNames.claims_claim`: every request comes to an end.
* `FileNames.nodup_claimAll`, `FileNames.counter_claimAll_le`: names are distinct, and the counter
  does not exceed the number of requests.
* `FileNames.getElem?_claimAll_of_plain`: the names for builders without dots.
-/
namespace FluentGen

namespace FileNames

variable {names names' : FileNames} {claimed : List String} {builder builder' name : String}

/-! ## Names with and without a number -/

theorem preferred_inj {a b : String} : preferred a = preferred b ↔ a = b := by
  simp [preferred]

theorem claim_of_not_mem (free : preferred builder ∉ names.claimed) :
    names.claim builder =
      (preferred builder, { names with claimed := preferred builder :: names.claimed }) := by
  rw [claim, if_neg free]

theorem toList_numbered (builder : String) (number : Nat) :
    (numbered builder number).toList =
      (builder.toList ++ '.' :: Nat.toDigits 10 number) ++ ".g.cs".toList := by
  simp [numbered]

/-- The number stands behind the last dot but those of the ending. -/
theorem numbered_inj {number number' : Nat} :
    numbered builder number = numbered builder' number' ↔
      builder = builder' ∧ number = number' := by
  constructor
  · intro same
    have texts := congrArg String.toList same
    rw [toList_numbered, toList_numbered] at texts
    have front := List.append_cancel_right texts
    have digits := (eq_of_append_cons_eq (notMem_toDigits number (by decide))
      (notMem_toDigits number' (by decide)) front).2
    rw [digits] at front
    exact ⟨String.toList_injective (List.append_cancel_right front), toDigits_inj.mp digits⟩
  · rintro ⟨rfl, rfl⟩
    rfl

theorem preferred_ne_numbered (plain : '.' ∉ builder.toList) (number : Nat) :
    preferred builder ≠ numbered builder' number := by
  intro same
  have texts := congrArg String.toList same
  rw [toList_numbered, preferred, String.toList_append] at texts
  rw [List.append_cancel_right texts] at plain
  exact plain (by simp)

/-- Names with different numbers are different, so a list has names with few numbers only. -/
theorem sub_le_length {low high : Nat}
    (h : ∀ number, low < number → number ≤ high → ∃ builder, numbered builder number ∈ claimed) :
    high - low ≤ claimed.length := by
  choose! builderOf named using h
  have apart : Set.InjOn (fun number => numbered (builderOf number) number)
      (Finset.Ioc low high) := by
    intro a _ b _ same
    exact (numbered_inj.mp same).2
  have inside : ∀ number ∈ Finset.Ioc low high,
      numbered (builderOf number) number ∈ claimed.toFinset := by
    intro number hnumber
    obtain ⟨above, below⟩ := Finset.mem_Ioc.mp hnumber
    exact List.mem_toFinset.mpr (named number above below)
  calc
    high - low = (Finset.Ioc low high).card := (Nat.card_Ioc low high).symm
    _ ≤ claimed.toFinset.card := Finset.card_le_card_of_injOn _ inside apart
    _ ≤ claimed.length := claimed.toFinset_card_le

/-! ## One request -/

/-- The search for the first number above a counter whose name is free. -/
inductive Finds (claimed : List String) (builder : String) : Nat → Nat → Prop
  | free {counter : Nat} :
    numbered builder (counter + 1) ∉ claimed → Finds claimed builder counter (counter + 1)
  | taken {counter number : Nat} :
    numbered builder (counter + 1) ∈ claimed → Finds claimed builder (counter + 1) number →
      Finds claimed builder counter number

/-- A request for a builder, with the name that it gets and the names handed out after it. -/
inductive Claims (names : FileNames) (builder : String) : String → FileNames → Prop
  | preferred : preferred builder ∉ names.claimed →
    Claims names builder (preferred builder)
      { names with claimed := FileNames.preferred builder :: names.claimed }
  | numbered {number : Nat} : FileNames.preferred builder ∈ names.claimed →
    Finds names.claimed builder names.counter number →
      Claims names builder (numbered builder number)
        { counter := number, claimed := FileNames.numbered builder number :: names.claimed }

theorem Finds.not_mem {counter number : Nat} (h : Finds claimed builder counter number) :
    numbered builder number ∉ claimed := by
  induction h with
  | free free => exact free
  | taken _ _ ih => exact ih

/-- Every number that the search passes over is taken. -/
theorem Finds.mem_of_lt {counter number : Nat} (h : Finds claimed builder counter number) :
    ∀ other, counter < other → other < number → numbered builder other ∈ claimed := by
  induction h with
  | free =>
    intro other above below
    omega
  | @taken counter _ taken _ ih =>
    intro other above below
    by_cases next : other = counter + 1
    · exact next ▸ taken
    · exact ih other (by omega) below

theorem finds_freeNumber_or (claimed : List String) (builder : String) (bound counter : Nat) :
    Finds claimed builder counter (freeNumber claimed builder bound counter) ∨
      ∀ number, counter < number → number ≤ counter + bound + 1 →
        numbered builder number ∈ claimed := by
  induction bound generalizing counter with
  | zero =>
    by_cases taken : numbered builder (counter + 1) ∈ claimed
    · refine .inr fun number above below => ?_
      obtain rfl : number = counter + 1 := by omega
      exact taken
    · exact .inl (.free taken)
  | succ bound ih =>
    unfold freeNumber
    by_cases taken : numbered builder (counter + 1) ∈ claimed
    · rw [if_pos taken]
      refine (ih (counter + 1)).imp (.taken taken) fun all number above below => ?_
      by_cases next : number = counter + 1
      · exact next ▸ taken
      · exact all number (by omega) (by omega)
    · rw [if_neg taken]
      exact .inl (.free taken)

/-- The bound of the search is never what ends it. -/
theorem finds_freeNumber (claimed : List String) (builder : String) (counter : Nat) :
    Finds claimed builder counter (freeNumber claimed builder claimed.length counter) := by
  refine (finds_freeNumber_or claimed builder claimed.length counter).resolve_right fun all => ?_
  have few : counter + claimed.length + 1 - counter ≤ claimed.length :=
    sub_le_length fun number above below => ⟨builder, all number above below⟩
  omega

/-- Every request comes to an end. -/
theorem claims_claim (names : FileNames) (builder : String) :
    names.Claims builder (names.claim builder).1 (names.claim builder).2 := by
  unfold claim
  by_cases taken : preferred builder ∈ names.claimed
  · rw [if_pos taken]
    exact .numbered taken (finds_freeNumber _ _ _)
  · rw [if_neg taken]
    exact .preferred taken

theorem Claims.fresh (h : names.Claims builder name names') :
    name ∉ names.claimed ∧ names'.claimed = name :: names.claimed := by
  cases h with
  | preferred free => exact ⟨free, rfl⟩
  | numbered _ found => exact ⟨found.not_mem, rfl⟩

/-! ## A run of requests -/

/-- Whether every number up to the counter is in a name that was handed out. -/
def Counted (names : FileNames) : Prop :=
  ∀ number, 0 < number → number ≤ names.counter →
    ∃ builder, numbered builder number ∈ names.claimed

theorem Counted.claims (counted : names.Counted) (h : names.Claims builder name names') :
    names'.Counted := by
  cases h with
  | preferred free =>
    intro number positive below
    obtain ⟨other, named⟩ := counted number positive below
    exact ⟨other, .tail _ named⟩
  | @numbered last taken found =>
    intro number positive below
    by_cases before : number ≤ names.counter
    · obtain ⟨other, named⟩ := counted number positive before
      exact ⟨other, .tail _ named⟩
    · -- The search has passed over the number or has ended at it.
      refine ⟨builder, ?_⟩
      by_cases reached : number = last
      · exact reached ▸ List.mem_cons_self
      · exact .tail _ (found.mem_of_lt number (by omega) (by have : number ≤ last := below; omega))

/-- What every request keeps is kept by a run of requests. -/
theorem claimAll_induction {P : FileNames → Prop}
    (step : ∀ {names builder name names'}, Claims names builder name names' → P names → P names')
    (builders : List String) (start : P names) : P (names.claimAll builders).2 := by
  induction builders generalizing names with
  | nil => exact start
  | cons builder builders ih => exact ih (step (names.claims_claim builder) start)

theorem claimed_claimAll (names : FileNames) (builders : List String) :
    (names.claimAll builders).2.claimed = (names.claimAll builders).1.reverse ++ names.claimed := by
  induction builders generalizing names with
  | nil => rfl
  | cons builder builders ih =>
    simp only [claimAll]
    rw [ih, (names.claims_claim builder).fresh.2, List.reverse_cons, List.append_assoc,
      List.singleton_append]

theorem length_claimAll (names : FileNames) (builders : List String) :
    (names.claimAll builders).1.length = builders.length := by
  induction builders generalizing names with
  | nil => rfl
  | cons builder builders ih => simp only [claimAll, List.length_cons, ih]

/-- No name is handed out twice. -/
theorem nodup_claimAll (builders : List String) : (claimAll {} builders).1.Nodup := by
  have nodup : (claimAll {} builders).2.claimed.Nodup := by
    refine claimAll_induction (P := fun names => names.claimed.Nodup) (fun h nodup => ?_) builders
      List.nodup_nil
    rw [h.fresh.2]
    exact List.nodup_cons.mpr ⟨h.fresh.1, nodup⟩
  rw [claimed_claimAll, List.append_nil] at nodup
  exact List.nodup_reverse.mp nodup

/-- No request is given a number above the count of requests. -/
theorem counter_claimAll_le (builders : List String) :
    (claimAll {} builders).2.counter ≤ builders.length := by
  have counted : (claimAll {} builders).2.Counted :=
    claimAll_induction (P := Counted) (fun h counted => counted.claims h) builders
      fun number positive below => absurd positive (by simpa using below)
  have few := sub_le_length counted
  rw [claimed_claimAll, List.append_nil, List.length_reverse, length_claimAll] at few
  omega

/-! ## Builders without dots -/

/-- How many of some requests, the latest first, repeat an earlier one. -/
def repeats : List String → Nat
  | [] => 0
  | builder :: earlier => repeats earlier + if builder ∈ earlier then 1 else 0

/-- The name for a builder after some requests, the latest first, if no builder has a dot in its
name: the number is one more than that of the repeated requests. -/
def plainName (earlier : List String) (builder : String) : String :=
  if builder ∈ earlier then numbered builder (repeats earlier + 1) else preferred builder

/-- What has been handed out after some requests for builders without dots. -/
structure IsPlain (names : FileNames) (earlier : List String) : Prop where
  plain : ∀ builder ∈ earlier, '.' ∉ builder.toList
  counter : names.counter = repeats earlier
  preferred : ∀ builder ∈ earlier, preferred builder ∈ names.claimed
  claimed : ∀ name ∈ names.claimed, (∃ builder ∈ earlier, name = FileNames.preferred builder) ∨
    ∃ builder number, number ≤ names.counter ∧ name = numbered builder number

namespace IsPlain

variable {earlier : List String}

theorem preferred_mem_iff (h : names.IsPlain earlier) (plain : '.' ∉ builder.toList) :
    FileNames.preferred builder ∈ names.claimed ↔ builder ∈ earlier := by
  constructor
  · intro taken
    rcases h.claimed _ taken with ⟨other, asked, same⟩ | ⟨other, number, -, same⟩
    · exact preferred_inj.mp same ▸ asked
    · exact absurd same (preferred_ne_numbered plain number)
  · exact h.preferred builder

theorem numbered_not_mem (h : names.IsPlain earlier) (builder : String) :
    numbered builder (names.counter + 1) ∉ names.claimed := by
  intro taken
  rcases h.claimed _ taken with ⟨other, asked, same⟩ | ⟨other, number, below, same⟩
  · exact preferred_ne_numbered (h.plain other asked) _ same.symm
  · have := (numbered_inj.mp same).2
    omega

theorem claims (h : names.IsPlain earlier) (plain : '.' ∉ builder.toList)
    (claims : names.Claims builder name names') :
    name = plainName earlier builder ∧ names'.IsPlain (builder :: earlier) := by
  have plain' : ∀ other ∈ builder :: earlier, '.' ∉ other.toList :=
    List.forall_mem_cons.mpr ⟨plain, h.plain⟩
  cases claims with
  | preferred free =>
    have first : builder ∉ earlier := (h.preferred_mem_iff plain).not.mp free
    refine ⟨by rw [plainName, if_neg first], plain', ?_, ?_, ?_⟩
    · simp [repeats, first, h.counter]
    · exact List.forall_mem_cons.mpr
        ⟨List.mem_cons_self, fun other asked => .tail _ (h.preferred other asked)⟩
    · refine List.forall_mem_cons.mpr ⟨.inl ⟨builder, List.mem_cons_self, rfl⟩, ?_⟩
      exact fun name named => (h.claimed name named).imp
        (fun ⟨other, asked, same⟩ => ⟨other, .tail _ asked, same⟩) id
  | numbered taken found =>
    have again : builder ∈ earlier := (h.preferred_mem_iff plain).mp taken
    -- The search ends at its first number.
    cases found with
    | taken occupied _ => exact absurd occupied (h.numbered_not_mem builder)
    | free =>
      refine ⟨by rw [plainName, if_pos again, h.counter], plain', ?_, ?_, ?_⟩
      · simp [repeats, again, h.counter]
      · refine List.forall_mem_cons.mpr ⟨.tail _ (h.preferred builder again), ?_⟩
        exact fun other asked => .tail _ (h.preferred other asked)
      · refine List.forall_mem_cons.mpr ⟨.inr ⟨builder, _, Nat.le_refl _, rfl⟩, ?_⟩
        exact fun name named => (h.claimed name named).imp
          (fun ⟨other, asked, same⟩ => ⟨other, .tail _ asked, same⟩)
          (fun ⟨other, number, below, same⟩ => ⟨other, number, Nat.le_succ_of_le below, same⟩)

theorem getElem?_claimAll (h : names.IsPlain earlier) (before : List String) (builder : String)
    (after : List String) (plain : ∀ other ∈ before ++ builder :: after, '.' ∉ other.toList) :
    (names.claimAll (before ++ builder :: after)).1[before.length]? =
      some (plainName (before.reverse ++ earlier) builder) := by
  induction before generalizing names earlier with
  | nil =>
    have first := (h.claims (plain builder (by simp)) (names.claims_claim builder)).1
    simp [claimAll, first]
  | cons other before ih =>
    have next := (h.claims (plain other (by simp)) (names.claims_claim other)).2
    simpa [claimAll] using ih next fun rest asked => plain rest (by simp [asked])

end IsPlain

theorem isPlain_empty : IsPlain {} [] :=
  ⟨by simp, rfl, by simp, by simp⟩

/-- The first request for a builder gets its name, and every later one gets a number that counts the
repeated requests of the run. -/
theorem getElem?_claimAll_of_plain (before : List String) (builder : String) (after : List String)
    (plain : ∀ other ∈ before ++ builder :: after, '.' ∉ other.toList) :
    (claimAll {} (before ++ builder :: after)).1[before.length]? =
      some (plainName before.reverse builder) := by
  simpa using isPlain_empty.getElem?_claimAll before builder after plain

end FileNames

/-! ## The files of a report -/

namespace Report

/-- The names of files are those that the outputs with a text ask for. -/
theorem names_ofOutputs (names : FileNames) (outputs : List UnitOutput) :
    (ofOutputs names outputs).files.map (·.name) =
      (names.claimAll ((outputs.filter (·.source.isSome)).map (·.builder))).1 := by
  induction outputs generalizing names with
  | nil => rfl
  | cons output outputs ih =>
    cases source : output.source with
    | none => simp [ofOutputs, source, ih]
    | some text => simp [ofOutputs, source, FileNames.claimAll, ih]

end Report

theorem Compilation.nodup_names_generate (model : Compilation) :
    (model.generate.files.map (·.name)).Nodup := by
  rw [generate, Report.names_ofOutputs]
  exact FileNames.nodup_claimAll _

end FluentGen
