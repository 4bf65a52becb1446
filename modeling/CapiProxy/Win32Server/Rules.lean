import CapiProxy.Win32Server.Authentication
import Mathlib.Data.List.Basic

/-! The lists `hosts_allow` and `hosts_deny`. Both loops of `try_auth_byip` offer `RegEnumValue` the
lengths it stored at the call before, so an entry is read only when it is not longer than the one in
front of it, and the first entry of the second list only when it is not longer than the one that ended
the first loop. -/
namespace CapiProxy.Win32Server
open Bytes

/-- An entry of a list: the name of the value is a network, its data a terminated mask. -/
structure Rule where
  net : List UInt8
  mask : List UInt8
  terminated : 0 ∉ mask

namespace Rule

def value (r : Rule) : List UInt8 × List UInt8 := (r.net, r.mask ++ [0])

/-- `net&mask == ip&mask`. -/
def Matches (inetAddr : List UInt8 → UInt32) (ip : UInt32) (r : Rule) : Prop :=
  inetAddr r.net &&& inetAddr r.mask = ip &&& inetAddr r.mask

instance (inetAddr : List UInt8 → UInt32) (ip : UInt32) : DecidablePred (Matches inetAddr ip) :=
  fun _ => inferInstanceAs (Decidable (_ = _))

/-- What `RegEnumValue` stores in the length variables. -/
def sizes (r : Rule) : Nat × Nat := (r.net.length, r.mask.length + 1)

theorem truncate_value (r : Rule) : truncate r.value.2 = r.mask := by
  have plain : ∀ b ∈ r.mask, decide (b ≠ 0) = true :=
    fun b member => decide_eq_true fun zero => r.terminated (zero ▸ member)
  simp only [truncate, value]
  rw [List.takeWhile_append_of_pos plain]
  simp

end Rule

/-- The terminator of the name needs room, but is not counted in the length that is stored. -/
def Fits (offered stored : Nat × Nat) : Prop := stored.1 < offered.1 ∧ stored.2 ≤ offered.2

instance : DecidableRel Fits := fun _ _ => inferInstanceAs (Decidable (_ ∧ _))

/-- The first entry that matches, with all entries in front of it readable from the sizes offered. -/
def Reached (inetAddr : List UInt8 → UInt32) (ip : UInt32) (offered : Nat × Nat) (rules : List Rule)
    (hit : Rule) : Prop :=
  ∃ before after, rules = before ++ hit :: after ∧ hit.Matches inetAddr ip ∧
    (∀ r ∈ before, ¬ r.Matches inetAddr ip) ∧
    List.IsChain Fits (offered :: (before ++ [hit]).map Rule.sizes)

def bufferSizes : Nat × Nat := (16, 16)

def Listed (inetAddr : List UInt8 → UInt32) (ip : UInt32) (rules : List Rule) : Prop :=
  ∃ r ∈ rules, r.Matches inetAddr ip

instance (inetAddr : List UInt8 → UInt32) (ip : UInt32) (rules : List Rule) :
    Decidable (Listed inetAddr ip rules) := inferInstanceAs (Decidable (∃ r ∈ rules, _))

def Admits (inetAddr : List UInt8 → UInt32) (ip : UInt32) (allow deny : List Rule) : Prop :=
  Listed inetAddr ip allow ∧ ¬ Listed inetAddr ip deny

section
variable (inetAddr : List UInt8 → UInt32) (ip : UInt32)

theorem not_reached_nil (offered : Nat × Nat) (hit : Rule) : ¬ Reached inetAddr ip offered [] hit := by
  rintro ⟨before, after, split, -⟩
  exact List.append_ne_nil_of_right_ne_nil before (List.cons_ne_nil hit after) split.symm

theorem reached_here {rule : Rule} (hits : rule.Matches inetAddr ip) :
    Reached inetAddr ip offered (rule :: rules) hit ↔ Fits offered rule.sizes ∧ hit = rule := by
  constructor
  · rintro ⟨before, after, split, -, none, chain⟩
    cases before with
    | nil =>
      obtain ⟨rfl, -⟩ := List.cons.inj split
      exact ⟨(List.isChain_cons_cons.mp chain).1, rfl⟩
    | cons first before =>
      obtain ⟨rfl, -⟩ := List.cons.inj split
      exact absurd hits (none _ List.mem_cons_self)
  · rintro ⟨fits, rfl⟩
    exact ⟨[], rules, rfl, hits, by simp, List.isChain_cons_cons.mpr ⟨fits, List.IsChain.singleton _⟩⟩

theorem reached_later {rule : Rule} (misses : ¬ rule.Matches inetAddr ip) :
    Reached inetAddr ip offered (rule :: rules) hit ↔
      Fits offered rule.sizes ∧ Reached inetAddr ip rule.sizes rules hit := by
  constructor
  · rintro ⟨before, after, split, hits, none, chain⟩
    cases before with
    | nil =>
      obtain ⟨rfl, -⟩ := List.cons.inj split
      exact absurd hits misses
    | cons first before =>
      obtain ⟨rfl, rest⟩ := List.cons.inj split
      obtain ⟨fits, chain⟩ := List.isChain_cons_cons.mp chain
      exact ⟨fits, before, after, rest, hits, fun r member => none r (List.mem_cons_of_mem _ member), chain⟩
  · rintro ⟨fits, before, after, split, hits, none, chain⟩
    refine ⟨rule :: before, after, by rw [split, List.cons_append], hits, ?_, ?_⟩
    · exact List.forall_mem_cons.mpr ⟨misses, none⟩
    · exact List.isChain_cons_cons.mpr ⟨fits, chain⟩

theorem enumerateRules_cons (socket : Option UInt32) (offered : Nat × Nat) (rule : Rule) (rules : List Rule) :
    enumerateRules ⟨socket, inetAddr⟩ ip ((rule :: rules).map Rule.value) offered.1 offered.2 =
      if Fits offered rule.sizes then
        if rule.Matches inetAddr ip then (true, rule.sizes)
        else enumerateRules ⟨socket, inetAddr⟩ ip (rules.map Rule.value) rule.sizes.1 rule.sizes.2
      else (false, offered) := by
  have mask := rule.truncate_value
  simp only [Rule.value] at mask
  simp only [List.map_cons, Rule.value, enumerateRules, mask, List.length_append, List.length_singleton]
  rfl

/-- What a loop finds is the entry that can be reached, and its lengths are what it leaves. -/
theorem enumerateRules_reached (socket : Option UInt32) (reached : Reached inetAddr ip offered rules hit) :
    enumerateRules ⟨socket, inetAddr⟩ ip (rules.map Rule.value) offered.1 offered.2 = (true, hit.sizes) := by
  induction rules generalizing offered with
  | nil => exact absurd reached (not_reached_nil inetAddr ip offered hit)
  | cons rule rules ih =>
    rw [enumerateRules_cons]
    by_cases hits : rule.Matches inetAddr ip
    · obtain ⟨fits, rfl⟩ := (reached_here inetAddr ip hits).mp reached
      rw [if_pos fits, if_pos hits]
    · obtain ⟨fits, later⟩ := (reached_later inetAddr ip hits).mp reached
      rw [if_pos fits, if_neg hits, ih later]

theorem enumerateRules_not_reached (socket : Option UInt32)
    (unreached : ∀ hit, ¬ Reached inetAddr ip offered rules hit) :
    (enumerateRules ⟨socket, inetAddr⟩ ip (rules.map Rule.value) offered.1 offered.2).1 = false := by
  induction rules generalizing offered with
  | nil => rfl
  | cons rule rules ih =>
    rw [enumerateRules_cons]
    split
    · next fits =>
      by_cases hits : rule.Matches inetAddr ip
      · exact absurd ((reached_here inetAddr ip hits).mpr ⟨fits, rfl⟩) (unreached rule)
      · rw [if_neg hits]
        apply ih
        intro hit later
        exact unreached hit ((reached_later inetAddr ip hits).mpr ⟨fits, later⟩)
    · rfl

def ruleRegistry (users : Option (List UInt8 → Option (List UInt8))) (allow deny : List Rule) : Registry :=
  ⟨users, some (allow.map Rule.value), some (deny.map Rule.value)⟩

def Passes (allow deny : List Rule) : Prop :=
  ∃ hit, Reached inetAddr ip bufferSizes allow hit ∧ ∀ denied, ¬ Reached inetAddr ip hit.sizes deny denied

theorem tryAuthByip_iff (users : Option (List UInt8 → Option (List UInt8))) (allow deny : List Rule) :
    tryAuthByip (ruleRegistry users allow deny) ⟨some ip, inetAddr⟩ = 1 ↔ Passes inetAddr ip allow deny := by
  by_cases found : ∃ hit, Reached inetAddr ip bufferSizes allow hit
  · obtain ⟨hit, reached⟩ := found
    have first := enumerateRules_reached inetAddr ip (some ip) reached
    simp only [bufferSizes] at first
    simp only [tryAuthByip, ruleRegistry, first, Bool.true_and]
    by_cases denied : ∃ denied, Reached inetAddr ip hit.sizes deny denied
    · obtain ⟨entry, stands⟩ := denied
      rw [enumerateRules_reached inetAddr ip (some ip) stands]
      refine iff_of_false (show ¬ (-1 : Int) = 1 by decide) ?_
      rintro ⟨other, also, none⟩
      have same := enumerateRules_reached inetAddr ip (some ip) also
      simp only [bufferSizes, first, Prod.mk.injEq, true_and] at same
      exact none entry (same ▸ stands)
    · have none : ∀ entry, ¬ Reached inetAddr ip hit.sizes deny entry :=
        fun entry stands => denied ⟨entry, stands⟩
      rw [enumerateRules_not_reached inetAddr ip (some ip) none]
      exact iff_of_true rfl ⟨hit, reached, none⟩
  · have none : ∀ hit, ¬ Reached inetAddr ip bufferSizes allow hit := fun hit reached => found ⟨hit, reached⟩
    have first := enumerateRules_not_reached inetAddr ip (some ip) none
    simp only [bufferSizes] at first
    simp only [tryAuthByip, ruleRegistry, first, Bool.false_and]
    refine iff_of_false (by decide) ?_
    rintro ⟨hit, reached, -⟩
    exact none hit reached

theorem listed_of_reached (reached : Reached inetAddr ip offered rules hit) : Listed inetAddr ip rules := by
  obtain ⟨before, after, split, hits, -⟩ := reached
  exact ⟨hit, by rw [split]; simp, hits⟩

/-- The lists are evaluated as they are meant to be exactly when an admitted address reaches an entry that
allows it, and behind the entry that allows it an address that is listed in the second list reaches
one that denies it. -/
theorem rules_evaluated_iff (users : Option (List UInt8 → Option (List UInt8))) (allow deny : List Rule) :
    (tryAuthByip (ruleRegistry users allow deny) ⟨some ip, inetAddr⟩ = 1 ↔ Admits inetAddr ip allow deny) ↔
      (Admits inetAddr ip allow deny → ∃ hit, Reached inetAddr ip bufferSizes allow hit) ∧
      ∀ hit, Reached inetAddr ip bufferSizes allow hit → Listed inetAddr ip deny →
        ∃ denied, Reached inetAddr ip hit.sizes deny denied := by
  rw [tryAuthByip_iff]
  constructor
  · intro evaluated
    refine ⟨fun admitted => ?_, fun hit reached listed => ?_⟩
    · obtain ⟨hit, reached, -⟩ := evaluated.mpr admitted
      exact ⟨hit, reached⟩
    · by_contra none
      have admitted := evaluated.mp ⟨hit, reached, fun denied stands => none ⟨denied, stands⟩⟩
      exact admitted.2 listed
  · rintro ⟨allowed, denies⟩
    constructor
    · rintro ⟨hit, reached, none⟩
      refine ⟨listed_of_reached inetAddr ip reached, fun listed => ?_⟩
      obtain ⟨denied, stands⟩ := denies hit reached listed
      exact none denied stands
    · intro admitted
      obtain ⟨hit, reached⟩ := allowed admitted
      exact ⟨hit, reached, fun denied stands => admitted.2 (listed_of_reached inetAddr ip stands)⟩

end

/-- `inet_addr` on four decimal numbers; the address is in network order. -/
def inetAddr (s : List UInt8) : UInt32 :=
  let number (digits : List UInt8) : UInt32 := digits.foldl (fun n d => 10 * n + (d - 48).toUInt32) 0
  (s.splitOn 46).foldr (fun digits address => address <<< 8 ||| number digits) 0

/-- The network 10.0.0.0 may connect, but not the host 10.0.0.66 in it. -/
def lanAllowed : List Rule := [⟨"10.0.0.0".toUTF8.toList, "255.0.0.0".toUTF8.toList, by decide +kernel⟩]

def hostDenied : List Rule := [⟨"10.0.0.66".toUTF8.toList, "255.255.255.255".toUTF8.toList, by decide +kernel⟩]

/-- The host is let in: its entry is longer than that of the network and is never read. -/
theorem hostDenied_admitted :
    ¬ (tryAuthByip (ruleRegistry none lanAllowed hostDenied) ⟨some 0x4200000A, inetAddr⟩ = 1 ↔
      Admits inetAddr 0x4200000A lanAllowed hostDenied) := by
  intro evaluated
  have entered : tryAuthByip (ruleRegistry none lanAllowed hostDenied) ⟨some 0x4200000A, inetAddr⟩ = 1 := by
    decide +kernel
  have listed : Listed inetAddr 0x4200000A hostDenied := by decide +kernel
  exact (evaluated.mp entered).2 listed

end CapiProxy.Win32Server
