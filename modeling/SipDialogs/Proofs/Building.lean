-- SUMMARY: Which configurations a registry can be built from, and what is said of the others.
import SipDialogs.Proofs.Striping
import Mathlib.Data.List.DropRight

/-! # Building a registry

A configuration must meet demands, one after another: first those on its numbers, then those on the
names of its profiles. Validation sees to the numbers, and what it lets through can be built with:
from there on, only a name can be refused. Whatever is built, the first demand that is not met is
the one that is heard of. -/

namespace SipDialogs

/-! ## Demands -/

/-- Something that must hold, and the fault where it does not. -/
structure Demand where
  met : Prop
  fault : Fault

namespace Demand

variable {α β : Type} {ds ds' : List Demand} {x : Except Fault α} {P : α → Prop} {e : Fault}

/-- The fault of the first demand that is not met. -/
inductive Breach : List Demand → Fault → Prop where
  | here {d : Demand} {ds : List Demand} (h : ¬d.met) : Breach (d :: ds) d.fault
  | later {d : Demand} {ds : List Demand} {e : Fault} (h : d.met) (hrest : Breach ds e) :
      Breach (d :: ds) e

theorem met_or_breach (ds : List Demand) : (∀ d ∈ ds, d.met) ∨ ∃ e, Breach ds e := by
  induction ds with
  | nil => exact .inl nofun
  | cons d ds ih =>
    by_cases hd : d.met
    · rcases ih with hall | ⟨e, he⟩
      · exact .inl (List.forall_mem_cons.2 ⟨hd, hall⟩)
      · exact .inr ⟨e, .later hd he⟩
    · exact .inr ⟨_, .here hd⟩

theorem Breach.exists_fault (h : Breach ds e) : ∃ d ∈ ds, d.fault = e := by
  induction h with
  | here => exact ⟨_, List.mem_cons_self, rfl⟩
  | later _ _ ih =>
    obtain ⟨d, hd, hfault⟩ := ih
    exact ⟨d, List.mem_cons_of_mem _ hd, hfault⟩

/-- A step that comes to what `P` says if all demands are met, and to the fault of the first that is
not. -/
structure Settles (ds : List Demand) (x : Except Fault α) (P : α → Prop) : Prop where
  done : (∀ d ∈ ds, d.met) → ∃ a, x = .ok a ∧ P a
  refused : ∀ e, Breach ds e → x = .error e

namespace Settles

theorem ok {a : α} (h : P a) : Settles [] (.ok a) P where
  done _ := ⟨a, rfl, h⟩
  refused _ he := nomatch he

theorem mono {Q : α → Prop} (h : Settles ds x P) (hPQ : ∀ a, P a → Q a) : Settles ds x Q where
  done hall := by
    obtain ⟨a, ha, hP⟩ := h.done hall
    exact ⟨a, ha, hPQ a hP⟩
  refused := h.refused

/-- One demand after another. -/
theorem check {d : Demand} (hmet : d.met → Settles ds x P) (hunmet : ¬d.met → x = .error d.fault) :
    Settles (d :: ds) x P where
  done hall := by
    obtain ⟨hd, hds⟩ := List.forall_mem_cons.1 hall
    exact (hmet hd).done hds
  refused e he := by
    cases he with
    | here h => exact hunmet h
    | later h hrest => exact (hmet h).refused e hrest

/-- A demand that is checked where its fault is given. -/
theorem guard {d : Demand} {broken : Prop} [Decidable broken] (hbroken : broken ↔ ¬d.met)
    (h : d.met → Settles ds x P) : Settles (d :: ds) (if broken then .error d.fault else x) P := by
  apply check
  · intro hd
    rw [if_neg fun hb => hbroken.1 hb hd]
    exact h hd
  · intro hd
    exact if_pos (hbroken.2 hd)

/-- One step after another. -/
theorem bind {f : α → Except Fault β} {Q : β → Prop} (h : Settles ds x P)
    (hf : ∀ a, P a → Settles ds' (f a) Q) : Settles (ds ++ ds') (x.bind f) Q := by
  induction ds with
  | nil =>
    obtain ⟨a, rfl, ha⟩ := h.done nofun
    exact hf a ha
  | cons d ds ih =>
    apply check
    · intro hd
      apply ih
      refine ⟨fun hds => h.done (List.forall_mem_cons.2 ⟨hd, hds⟩), fun e he => ?_⟩
      exact h.refused e (.later hd he)
    · intro hd
      rw [h.refused _ (.here hd)]
      rfl

theorem ok_iff (h : Settles ds x P) : (∃ a, x = .ok a) ↔ ∀ d ∈ ds, d.met := by
  constructor
  · rintro ⟨a, rfl⟩
    rcases met_or_breach ds with hall | ⟨e, he⟩
    · exact hall
    · cases h.refused e he
  · intro hall
    obtain ⟨a, ha, -⟩ := h.done hall
    exact ⟨a, ha⟩

theorem of_eq_ok (h : Settles ds x P) {a : α} (ha : x = .ok a) : P a := by
  obtain ⟨b, hb, hP⟩ := h.done (h.ok_iff.1 ⟨a, ha⟩)
  cases ha.symm.trans hb
  exact hP

theorem error_iff (h : Settles ds x P) : x = .error e ↔ Breach ds e := by
  constructor
  · rintro rfl
    rcases met_or_breach ds with hall | ⟨e', he'⟩
    · obtain ⟨a, ha, -⟩ := h.done hall
      cases ha
    · cases h.refused e' he'
      exact he'
  · exact h.refused e

end Settles

/-! ## Demands on names -/

/-- Names are made of ASCII letters and digits. -/
def plain (name : String) : Demand where
  met := ∀ c ∈ name.toList, c.isAlphanum = true
  fault := .invalidProfileName name
    ("char " ++ Text.Quoted.character ((name.toList.find? fun c => !c.isAlphanum).getD ' ')
      ++ " - use only alphanumerical characters")

/-- No name is given twice. -/
def fresh (earlier : List String) (name : String) : Demand where
  met := name ∉ earlier
  fault := .duplicateProfile name

/-- The demands on names that follow others, name by name. -/
def naming : (earlier : List String) → List String → List Demand
  | _, [] => []
  | earlier, name :: names =>
    plain name :: fresh earlier name :: naming (earlier ++ [name]) names

theorem naming_append (earlier names names' : List String) :
    naming earlier (names ++ names')
      = naming earlier names ++ naming (earlier ++ names) names' := by
  induction names generalizing earlier with
  | nil => simp [naming]
  | cons name names ih => simp [naming, ih]

theorem naming_met_iff {earlier names : List String} :
    (∀ d ∈ naming earlier names, d.met) ↔
      (∀ name ∈ names, (plain name).met) ∧ names.Nodup ∧ ∀ name ∈ names, name ∉ earlier := by
  induction names generalizing earlier with
  | nil => simp [naming]
  | cons name names ih =>
    simp only [naming, List.forall_mem_cons, ih, List.nodup_cons, List.mem_append,
      List.mem_singleton, not_or]
    constructor
    · rintro ⟨hplain, hfresh, hplains, hnodup, hnew⟩
      exact ⟨⟨hplain, hplains⟩, ⟨fun hmem => (hnew name hmem).2 rfl, hnodup⟩, hfresh,
        fun n hn => (hnew n hn).1⟩
    · rintro ⟨⟨hplain, hplains⟩, ⟨hnot, hnodup⟩, hfresh, hnew⟩
      exact ⟨hplain, hfresh, hplains, hnodup, fun n hn => ⟨hnew n hn, fun heq => hnot (heq ▸ hn)⟩⟩

theorem fault_of_mem_naming {d : Demand} {earlier names : List String}
    (h : d ∈ naming earlier names) :
    ∃ name, d = plain name ∨ ∃ earlier, d = fresh earlier name := by
  induction names generalizing earlier with
  | nil => cases h
  | cons name names ih =>
    rcases List.mem_cons.1 h with rfl | h
    · exact ⟨name, .inl rfl⟩
    rcases List.mem_cons.1 h with rfl | h
    · exact ⟨name, .inr ⟨earlier, rfl⟩⟩
    · exact ih h

end Demand

/-! ## Profiles -/

/-- A profile that nobody is in. -/
def Profile.vacant (name : String) (size : UInt32) (hasValue : Bool) : Profile :=
  { name, hasValue, size, buckets := Array.replicate size.toNat [] }

namespace Directory

variable {size : UInt32} {hasValue : Bool}

theorem search?_isSome_iff (d : Directory) (name : String) :
    (d.search? name).isSome = true ↔ name ∈ d.names := by
  unfold search? names
  rw [List.find?_isSome, List.mem_map]
  simp

/-- Under a name that is given once, there is one profile to find. -/
theorem search?_of_nodup (d : Directory) (h : d.names.Nodup) {p : Profile} (hp : p ∈ d.profiles) :
    d.search? p.name = some p := by
  cases hfound : d.search? p.name with
  | none =>
    have hsome := (d.search?_isSome_iff p.name).2 (List.mem_map_of_mem hp)
    rw [hfound] at hsome
    cases hsome
  | some q =>
    have hget : d.get p.name = .ok q := by rw [get, hfound]
    obtain ⟨-, hq, hname⟩ := get_eq_ok hget
    rw [List.inj_on_of_nodup_map h hq hp hname]

theorem register_settles (d : Directory) {name : String} (hname : name ≠ "")
    (hsize : Profile.isPowerOfTwo size = true) :
    Demand.Settles [.plain name, .fresh d.names name] (d.register name size hasValue)
      fun d' => d'.profiles = d.profiles ++ [.vacant name size hasValue] := by
  have hnonempty : ¬name.isEmpty = true := by simpa using hname
  unfold register Profile.create
  rw [if_neg hnonempty]
  apply Demand.Settles.check
  · intro hplain
    have hnone : name.toList.find? (fun c => !c.isAlphanum) = none := by
      apply List.find?_eq_none.2
      intro c hc
      simp [hplain c hc]
    rw [hnone]
    dsimp only
    rw [if_pos hsize]
    apply Demand.Settles.check
    · intro hfresh
      dsimp only
      rw [if_neg fun hsome => hfresh ((d.search?_isSome_iff name).1 hsome)]
      exact .ok rfl
    · intro hfresh
      dsimp only
      rw [if_pos ((d.search?_isSome_iff name).2 (not_not.1 hfresh))]
      rfl
  · intro hplain
    cases hbad : name.toList.find? (fun c => !c.isAlphanum) with
    | none =>
      refine absurd (fun c hc => ?_) hplain
      simpa using List.find?_eq_none.1 hbad c hc
    | some bad => simp [Demand.plain, hbad]

/-- The directory after names were registered, unless one was refused. -/
def filled (x : Directory × Except Fault Unit) : Except Fault Directory := x.2.map fun _ => x.1

theorem registerAll_settles (d : Directory) {names : List String}
    (hnames : ∀ name ∈ names, name ≠ "") (hsize : Profile.isPowerOfTwo size = true) :
    Demand.Settles (Demand.naming d.names names) (filled (d.registerAll size hasValue names))
      fun d' => d'.profiles = d.profiles ++ names.map fun name => .vacant name size hasValue := by
  induction names generalizing d with
  | nil => exact .ok (List.append_nil _).symm
  | cons name names ih =>
    obtain ⟨hname, hnames⟩ := List.forall_mem_cons.1 hnames
    have hstep : filled (d.registerAll size hasValue (name :: names))
        = (d.register name size hasValue).bind fun d' =>
            filled (d'.registerAll size hasValue names) := by
      rw [registerAll]
      cases d.register name size hasValue <;> rfl
    rw [hstep]
    apply (d.register_settles hname hsize).bind
    intro d' hprofiles
    have hd' : d'.names = d.names ++ [name] := by
      rw [Directory.names, hprofiles, List.map_append]
      rfl
    rw [← hd']
    apply (ih d' hnames).mono
    intro d'' hd''
    rw [hd'', hprofiles, List.append_assoc]
    rfl

end Directory

/-! ## Names in definitions -/

/-- The names that a definition lists: what stands between its semicolons, without the blanks at
either end, unless that leaves nothing. -/
def listedNames (definition : String) : List String :=
  (((definition.toList.splitOn ';').map fun cs =>
    (cs.dropWhile Text.isBlank).rdropWhile Text.isBlank).filter (· ≠ [])).map String.ofList

namespace Directory

theorem splitNames_eq_splitOn (cs : List Char) : splitNames cs = cs.splitOn ';' := by
  unfold List.splitOn
  induction cs with
  | nil => rfl
  | cons c cs ih =>
    rw [splitNames, ih, List.splitOnP_cons_eq_if_modifyHead]
    by_cases hc : c = ';'
    · simp [hc]
    · rw [if_neg hc, if_neg (by simpa using hc)]
      cases hrest : cs.splitOnP (· == ';') with
      | nil => exact absurd hrest (List.splitOnP_ne_nil _ _)
      | cons first rest => rfl

theorem definedNames_eq_listedNames (definition : String) :
    definedNames definition = listedNames definition := by
  unfold definedNames listedNames
  rw [splitNames_eq_splitOn]
  congr 2
  funext cs
  cases cs <;> rfl

end Directory

example : listedNames " user; ;\tgroup ;" = ["user", "group"] := by decide

theorem ne_empty_of_mem_listedNames {definition name : String} (h : name ∈ listedNames definition) :
    name ≠ "" := by
  obtain ⟨cs, hcs, rfl⟩ := List.mem_map.1 h
  have hne : cs ≠ [] := of_decide_eq_true (List.mem_filter.1 hcs).2
  simpa using hne

namespace Config

variable (c : Config)

/-- The names of the profiles, and whether they have values. -/
def entries : List (String × Bool) :=
  (listedNames c.profilesWithValue).map (·, true) ++
    (listedNames c.profilesNoValue).map (·, false)

/-- A configuration that a registry can be built from. -/
structure Sound : Prop where
  hashSize : 1 ≤ c.hashSize.toNat
  profileHashSize : ∃ k, c.profileHashSize.toNat = 2 ^ k
  defaultTimeout : 1 ≤ c.defaultTimeout.toNat
  updatePeriod : c.persistence.mode = .delayed → 1 ≤ c.persistence.updatePeriod.toNat
  plain : ∀ entry ∈ c.entries, ∀ ch ∈ entry.1.toList, ch.isAlphanum = true
  distinct : (c.entries.map (·.1)).Nodup

/-- The demands on the numbers. -/
def limits : List Demand :=
  [⟨1 ≤ c.hashSize.toNat, .config "hash_size must be at least 1"⟩,
    ⟨∃ k, c.profileHashSize.toNat = 2 ^ k, .config
      ("profile_hash_size " ++ toString c.profileHashSize.toNat ++ " is not a power of 2")⟩,
    ⟨1 ≤ c.defaultTimeout.toNat, .config "default_timeout must be at least 1 second"⟩,
    ⟨c.persistence.mode = .delayed → 1 ≤ c.persistence.updatePeriod.toNat,
      .config "update_period must be at least 1 second in delayed mode"⟩]

theorem fault_of_mem_limits {d : Demand} (h : d ∈ c.limits) :
    ∃ reason, d.fault = .config reason := by
  simp only [limits, List.mem_cons, List.not_mem_nil, or_false] at h
  rcases h with rfl | rfl | rfl | rfl <;> exact ⟨_, rfl⟩

/-- All demands, in order. -/
def demands : List Demand := c.limits ++ Demand.naming [] (c.entries.map (·.1))

theorem fatal_of_mem_demands {d : Demand} (h : d ∈ c.demands) :
    d.fault.isFatal = true ∧ ∀ size, d.fault ≠ .invalidProfileSize size := by
  rcases List.mem_append.1 h with hlimit | hname
  · obtain ⟨reason, hreason⟩ := c.fault_of_mem_limits hlimit
    rw [hreason]
    exact ⟨rfl, fun _ => Fault.noConfusion⟩
  · obtain ⟨name, hinvalid | ⟨earlier, hduplicate⟩⟩ := Demand.fault_of_mem_naming hname
    · rw [hinvalid]
      exact ⟨rfl, fun _ => Fault.noConfusion⟩
    · rw [hduplicate]
      exact ⟨rfl, fun _ => Fault.noConfusion⟩

theorem sound_iff : c.Sound ↔ ∀ d ∈ c.demands, d.met := by
  unfold demands limits
  rw [List.forall_mem_append, Demand.naming_met_iff]
  constructor
  · intro h
    refine ⟨?_, ?_, h.distinct, nofun⟩
    · simpa using ⟨h.hashSize, h.profileHashSize, h.defaultTimeout, h.updatePeriod⟩
    · intro name hname
      obtain ⟨entry, hentry, rfl⟩ := List.mem_map.1 hname
      exact h.plain entry hentry
  · rintro ⟨hlimits, hplain, hdistinct, -⟩
    simp only [List.forall_mem_cons] at hlimits
    obtain ⟨hhash, hprofile, htimeout, hperiod, -⟩ := hlimits
    exact ⟨hhash, hprofile, htimeout, hperiod,
      fun entry hentry => hplain _ (List.mem_map_of_mem hentry), hdistinct⟩

end Config

/-! ## Building -/

theorem Profile.isPowerOfTwo_iff (n : UInt32) :
    isPowerOfTwo n = true ↔ ∃ k, n.toNat = 2 ^ k := by
  have hword : isPowerOfTwo n = true ↔ n.toNat ≠ 0 ∧ n.toNat &&& n.toNat - 1 = 0 := by
    unfold isPowerOfTwo
    rw [Bool.and_eq_true, bne_iff_ne, beq_iff_eq, ← UInt32.toNat_inj, UInt32.toNat_and, ne_eq,
      ← UInt32.toNat_inj]
    apply and_congr_right
    intro hne
    have hone : 1 ≤ n := UInt32.le_iff_toNat_le.2 (Nat.pos_of_ne_zero hne)
    rw [UInt32.toNat_sub_of_le _ _ hone]
    rfl
  exact hword.trans Nat.ne_zero_and_sub_one_eq_zero_iff_isPowerOfTwo

theorem word_eq_zero_iff (n : UInt32) : n = 0 ↔ ¬1 ≤ n.toNat := by
  rw [← UInt32.toNat_inj, Nat.not_le, Nat.lt_one_iff]
  rfl

theorem Config.validate_settles (c : Config) :
    Demand.Settles c.limits c.validate
      fun _ => 0 < c.hashSize ∧ Profile.isPowerOfTwo c.profileHashSize = true := by
  have hprofile : (!Profile.isPowerOfTwo c.profileHashSize) = true
      ↔ ¬∃ k, c.profileHashSize.toNat = 2 ^ k := by
    rw [← Profile.isPowerOfTwo_iff]
    simp
  have hperiod : (c.persistence.mode = .delayed ∧ c.persistence.updatePeriod = 0)
      ↔ ¬(c.persistence.mode = .delayed → 1 ≤ c.persistence.updatePeriod.toNat) := by
    rw [word_eq_zero_iff, Classical.not_imp]
  unfold limits validate PersistenceConfig.validate
  apply Demand.Settles.guard (word_eq_zero_iff _)
  intro hhash
  apply Demand.Settles.guard hprofile
  intro hpower
  apply Demand.Settles.guard (word_eq_zero_iff _)
  intro _
  apply Demand.Settles.guard hperiod
  intro _
  exact .ok ⟨UInt32.lt_iff_toNat_lt.2 hhash, (Profile.isPowerOfTwo_iff _).2 hpower⟩

namespace Directory

theorem ofDefinitions_settles (withValue withoutValue : String) {size : UInt32}
    (hsize : Profile.isPowerOfTwo size = true) :
    Demand.Settles (Demand.naming [] (listedNames withValue ++ listedNames withoutValue))
      (ofDefinitions withValue withoutValue size) fun d =>
        d.profiles = (listedNames withValue).map (Profile.vacant · size true) ++
          (listedNames withoutValue).map (Profile.vacant · size false) := by
  have hsteps : ofDefinitions withValue withoutValue size
      = (filled (registerAll {} size true (listedNames withValue))).bind fun d =>
          filled (d.registerAll size false (listedNames withoutValue)) := by
    unfold ofDefinitions addDefinitions
    simp only [definedNames_eq_listedNames]
    generalize registerAll {} size true (listedNames withValue) = first
    obtain ⟨d, result⟩ := first
    cases result with
    | error e => rfl
    | ok _ =>
      simp only [filled, Except.map, Except.bind]
      generalize d.registerAll size false (listedNames withoutValue) = second
      obtain ⟨d', result⟩ := second
      cases result <;> rfl
  rw [hsteps, Demand.naming_append]
  apply (registerAll_settles {} (fun _ => ne_empty_of_mem_listedNames) hsize).bind
  intro d hprofiles
  have hnames : d.names = [] ++ listedNames withValue := by
    rw [Directory.names, hprofiles]
    simp [Profile.vacant, Function.comp_def]
  rw [← hnames]
  apply (d.registerAll_settles (fun _ => ne_empty_of_mem_listedNames) hsize).mono
  intro d' hd'
  rw [hd', hprofiles]
  rfl

end Directory

namespace Registry

theorem create_settles (config : Config) (clock : Timestamp) (hasTimer : Bool) (env : ε) :
    Demand.Settles config.demands (create config clock hasTimer env) fun r =>
      r.profiles.profiles
        = config.entries.map fun e => .vacant e.1 config.profileHashSize e.2 := by
  have hsteps : create config clock hasTimer env = config.validate.bind fun _ =>
      (Table.create config.hashSize config.defaultTimeout).bind fun table =>
        (Directory.ofDefinitions config.profilesWithValue config.profilesNoValue
          config.profileHashSize).bind fun profiles =>
            .ok { config, clock, table, profiles, hasTimer, env } := rfl
  have hnames : config.entries.map (·.1)
      = listedNames config.profilesWithValue ++ listedNames config.profilesNoValue := by
    simp [Config.entries, Function.comp_def]
  rw [hsteps, Config.demands, hnames]
  apply config.validate_settles.bind
  rintro - ⟨hhash, hprofile⟩
  obtain ⟨t, ht, -⟩ := Table.create_striped hhash config.defaultTimeout
  rw [ht, ← List.append_nil (Demand.naming _ _)]
  apply (Directory.ofDefinitions_settles _ _ hprofile).bind
  intro d hd
  apply Demand.Settles.ok
  simp [hd, Config.entries, Function.comp_def]

/-- A registry is built from the sound configurations and from no others. It has a profile for each
name, in order and with nobody in it, and finds each under its name. Where nothing is built, the
first demand that is not met says why, and the process must not start. -/
theorem create_exact (config : Config) (clock : Timestamp) (hasTimer : Bool) (env : ε) :
    ((∃ r, create config clock hasTimer env = .ok r) ↔ config.Sound) ∧
    (∀ r, create config clock hasTimer env = .ok r →
      r.profiles.names = config.entries.map (·.1) ∧
      (r.profiles.profiles.map fun p => (p.name, p.hasValue, p.size, p.buckets.size))
        = (config.entries.map fun e =>
            (e.1, e.2, config.profileHashSize, config.profileHashSize.toNat)) ∧
      ∀ p ∈ r.profiles.profiles,
        r.profiles.search? p.name = some p ∧ r.profiles.get p.name = .ok p) ∧
    ∀ e, (create config clock hasTimer env = .error e ↔ Demand.Breach config.demands e) ∧
      (create config clock hasTimer env = .error e →
        e.isFatal = true ∧ ∀ size, e ≠ .invalidProfileSize size) := by
  have hsettles := create_settles config clock hasTimer env
  refine ⟨?_, fun r hr => ?_, fun e => ⟨hsettles.error_iff, fun he => ?_⟩⟩
  · rw [hsettles.ok_iff, config.sound_iff]
  · have hprofiles := hsettles.of_eq_ok hr
    have hsound := config.sound_iff.2 (hsettles.ok_iff.1 ⟨r, hr⟩)
    have hnames : r.profiles.names = config.entries.map (·.1) := by
      rw [Directory.names, hprofiles, List.map_map]
      rfl
    refine ⟨hnames, ?_, fun p hp => ?_⟩
    · rw [hprofiles, List.map_map]
      simp [Profile.vacant]
    · have hsearch : r.profiles.search? p.name = some p := by
        apply r.profiles.search?_of_nodup _ hp
        rw [hnames]
        exact hsound.distinct
      refine ⟨hsearch, ?_⟩
      rw [Directory.get, hsearch]
  · obtain ⟨d, hd, rfl⟩ := (hsettles.error_iff.1 he).exists_fault
    exact config.fatal_of_mem_demands hd

end Registry

end SipDialogs
