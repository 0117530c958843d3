-- SUMMARY: A snapshot that is written as structured data is read back, and what may be left out.
import SipDialogs.Snapshot
import SipDialogs.Proofs.Instants
import SipDialogs.Proofs.KeyTexts

/-! # Snapshots as structured data

The two directions are written apart from each other, field by field. They meet in what is read
under each name: a map is read as a snapshot if every field of it is found there. -/

namespace SipDialogs

/-! ## Parts -/

namespace Value

theorem natBelow?_ofNat {limit n : Nat} (h : n < limit) : natBelow? limit (ofNat n) = some n := by
  have hbounds : (0 : Int) ≤ n ∧ (n : Int) < limit := by omega
  rw [ofNat, natBelow?, if_pos hbounds, Int.toNat_natCast]

theorem word?_ofNat (w : UInt32) : word? (ofNat w.toNat) = some w := by
  rw [word?, natBelow?_ofNat w.toNat_lt, Option.map_some, UInt32.ofNat_toNat]

theorem optional?_ofText? (t : Option String) : optional? text? (ofText? t) = some t := by
  cases t <;> rfl

end Value

theorem Key.ofValue?_render (k : Key) : ofValue? (.text k.render) = some k :=
  parse?_eq_some_iff.2 k.render_spelled

theorem Phase.ofValue?_name (p : Phase) : ofValue? (.text p.name) = some p := by
  cases p <;> rfl

theorem Flags.ofValue?_bits (f : Flags) : ofValue? (.ofNat f.bits.toNat) = some f := by
  rw [ofValue?, Value.word?_ofNat]
  rfl

theorem Timestamp.ofValue?_render {t : Timestamp} (h : t.Regular) :
    ofValue? (.text t.render) = some t := by
  unfold ofValue? Value.text?
  rw [Option.bind_some]
  exact parse?_render_iff.2 h

/-! ## Fields -/

namespace Fields

theorem defaulted_named {α : Type} (es : Entries) (place : Nat) (name : String) (missing : α)
    (decode : Value → Option α) :
    (named es).defaulted place name missing decode
      = (es.get? name).elim (some missing) decode := by
  unfold defaulted get?
  dsimp only
  cases es.get? name <;> rfl

theorem nullable_named {α : Type} (es : Entries) (place : Nat) (name : String)
    (decode : Value → Option α) :
    (named es).nullable place name decode
      = (es.get? name).elim (some none) (Value.optional? decode) := by
  unfold nullable get?
  dsimp only
  cases es.get? name <;> rfl

end Fields

namespace Entries

variable {α : Type} {es : Entries} {name : String} {v : Value} {decode : Value → Option α} {a : α}

/-- What stands under a name is read. -/
theorem found (hget : es.get? name = some v) (h : decode v = some a) :
    (es.get? name).bind decode = some a := by
  rw [hget, Option.bind_some, h]

theorem given {missing : Option α} (hget : es.get? name = some v) (h : decode v = some a) :
    (es.get? name).elim missing decode = some a := by
  rw [hget, Option.elim_some, h]

/-- What is missing, or null, is none. -/
theorem left_out (h : es.get? name = none ∨ es.get? name = some .null) :
    (es.get? name).elim (some none) (Value.optional? decode) = some none := by
  rcases h with hnone | hnull
  · rw [hnone, Option.elim_none]
  · rw [hnull, Option.elim_some]
    rfl

/-- Maps that are alike under every other name. -/
def AlikeBut (name : String) (es es' : Entries) : Prop :=
  ∀ other, other ≠ name → es'.get? other = es.get? other

end Entries

/-! ## Legs -/

namespace LegInfo

/-- What is found under the names of a map, as information on a side. -/
structure Reads (es : Entries) (i : LegInfo) : Prop where
  tag : (es.get? "tag").bind Value.text? = some i.tag
  contact : (es.get? "contact").bind Value.text? = some i.contact
  routeSet : (es.get? "route_set").bind Value.text? = some i.routeSet
  cseq : (es.get? "cseq").bind Value.text? = some i.cseq
  bindAddr : (es.get? "bind_addr").elim (some none) (Value.optional? Value.text?)
    = some i.bindAddr

theorem ofValue?_map_iff {es : Entries} {i : LegInfo} :
    ofValue? (.map es) = some i ↔ Reads es i := by
  unfold ofValue? Value.fields?
  simp only [Option.bind_eq_bind, Option.bind_some, Option.bind_eq_some_iff,
    Fields.nullable_named]
  constructor
  · rintro ⟨tag, htag, contact, hcontact, routeSet, hrouteSet, cseq, hcseq, bindAddr, hbind, h⟩
    cases h
    exact ⟨htag, hcontact, hrouteSet, hcseq, hbind⟩
  · rintro ⟨htag, hcontact, hrouteSet, hcseq, hbind⟩
    exact ⟨_, htag, _, hcontact, _, hrouteSet, _, hcseq, _, hbind, rfl⟩

theorem ofValue?_toValue (i : LegInfo) : ofValue? i.toValue = some i := by
  apply ofValue?_map_iff.2
  constructor
  · rfl
  · rfl
  · rfl
  · rfl
  · exact Value.optional?_ofText? i.bindAddr

theorem Reads.unbound {es es' : Entries} {i : LegInfo} (h : Reads es i)
    (halike : es.AlikeBut "bind_addr" es')
    (hnone : es'.get? "bind_addr" = none ∨ es'.get? "bind_addr" = some .null) :
    Reads es' { i with bindAddr := none } := by
  constructor
  · rw [halike _ (by decide), h.tag]
  · rw [halike _ (by decide), h.contact]
  · rw [halike _ (by decide), h.routeSet]
  · rw [halike _ (by decide), h.cseq]
  · exact Entries.left_out hnone

end LegInfo

/-! ## Snapshots -/

namespace Snapshot

/-- What is found under the names of a map, as a snapshot. -/
structure Reads (es : Entries) (s : Snapshot) : Prop where
  key : (es.get? "hash").bind Key.ofValue? = some s.key
  phase : (es.get? "state").bind Phase.ofValue? = some s.phase
  flags : (es.get? "flags").bind Flags.ofValue? = some s.flags
  start : (es.get? "timestart").bind Timestamp.ofValue? = some s.start
  timeout : (es.get? "timeout").bind Value.word? = some s.timeout
  callId : (es.get? "callid").bind Value.text? = some s.callId
  fromUri : (es.get? "from_uri").bind Value.text? = some s.fromUri
  toUri : (es.get? "to_uri").bind Value.text? = some s.toUri
  caller : (es.get? "caller").bind LegInfo.ofValue? = some s.caller
  callee : (es.get? "callee").bind LegInfo.ofValue? = some s.callee
  version : (es.get? "version").elim (some 0) (Value.natBelow? UInt64.size) = some s.version
  context : (es.get? "context").elim (some none) (Value.optional? Value.entries?)
    = some s.context

theorem ofValue?_map_iff {es : Entries} {s : Snapshot} :
    ofValue? (.map es) = some s ↔ Reads es s := by
  constructor
  · intro h
    obtain ⟨key, hkey, h⟩ := Option.bind_eq_some_iff.1 h
    obtain ⟨phase, hphase, h⟩ := Option.bind_eq_some_iff.1 h
    obtain ⟨flags, hflags, h⟩ := Option.bind_eq_some_iff.1 h
    obtain ⟨start, hstart, h⟩ := Option.bind_eq_some_iff.1 h
    obtain ⟨timeout, htimeout, h⟩ := Option.bind_eq_some_iff.1 h
    obtain ⟨callId, hcallId, h⟩ := Option.bind_eq_some_iff.1 h
    obtain ⟨fromUri, hfromUri, h⟩ := Option.bind_eq_some_iff.1 h
    obtain ⟨toUri, htoUri, h⟩ := Option.bind_eq_some_iff.1 h
    obtain ⟨caller, hcaller, h⟩ := Option.bind_eq_some_iff.1 h
    obtain ⟨callee, hcallee, h⟩ := Option.bind_eq_some_iff.1 h
    obtain ⟨version, hversion, h⟩ := Option.bind_eq_some_iff.1 h
    obtain ⟨context, hcontext, h⟩ := Option.bind_eq_some_iff.1 h
    cases h
    rw [Fields.defaulted_named] at hversion hcontext
    exact ⟨hkey, hphase, hflags, hstart, htimeout, hcallId, hfromUri, htoUri, hcaller, hcallee,
      hversion, hcontext⟩
  · intro h
    refine Option.bind_eq_some_iff.2 ⟨_, h.key, ?_⟩
    refine Option.bind_eq_some_iff.2 ⟨_, h.phase, ?_⟩
    refine Option.bind_eq_some_iff.2 ⟨_, h.flags, ?_⟩
    refine Option.bind_eq_some_iff.2 ⟨_, h.start, ?_⟩
    refine Option.bind_eq_some_iff.2 ⟨_, h.timeout, ?_⟩
    refine Option.bind_eq_some_iff.2 ⟨_, h.callId, ?_⟩
    refine Option.bind_eq_some_iff.2 ⟨_, h.fromUri, ?_⟩
    refine Option.bind_eq_some_iff.2 ⟨_, h.toUri, ?_⟩
    refine Option.bind_eq_some_iff.2 ⟨_, h.caller, ?_⟩
    refine Option.bind_eq_some_iff.2 ⟨_, h.callee, ?_⟩
    refine Option.bind_eq_some_iff.2 ⟨_, (Fields.defaulted_named ..).trans h.version, ?_⟩
    refine Option.bind_eq_some_iff.2 ⟨_, (Fields.defaulted_named ..).trans h.context, ?_⟩
    rfl

/-! ### What is written -/

/-- The map that is written has a field under each name, and a context only if there is one. -/
theorem toValue_eq (s : Snapshot) : ∃ es : Entries, s.toValue = .map es ∧ (es.map (·.1)).Nodup ∧
    es.get? "context" = s.context.map Value.map := by
  refine ⟨_, rfl, ?_, ?_⟩
  · cases s.context <;> simp
  · cases s.context <;> rfl

theorem reads_toValue {s : Snapshot} (hstart : s.start.Regular) (hversion : s.version < 2 ^ 64)
    {es : Entries} (h : s.toValue = .map es) : Reads es s := by
  cases h
  constructor
  · exact Entries.found rfl (Key.ofValue?_render s.key)
  · exact Entries.found rfl (Phase.ofValue?_name s.phase)
  · exact Entries.found rfl (Flags.ofValue?_bits s.flags)
  · exact Entries.found rfl (Timestamp.ofValue?_render hstart)
  · exact Entries.found rfl (Value.word?_ofNat s.timeout)
  · rfl
  · rfl
  · rfl
  · exact Entries.found rfl (LegInfo.ofValue?_toValue s.caller)
  · exact Entries.found rfl (LegInfo.ofValue?_toValue s.callee)
  · exact Entries.given rfl (Value.natBelow?_ofNat hversion)
  · cases s.context <;> rfl

/-! ### What may be left out -/

/-- The fields that must be there are read from every map that has them. -/
theorem Reads.with_defaults {es es' : Entries} {s : Snapshot} (h : Reads es s)
    (hothers : ∀ name, name ≠ "version" → name ≠ "context" → es'.get? name = es.get? name)
    {version : Nat} {context : Option Entries}
    (hversion : (es'.get? "version").elim (some 0) (Value.natBelow? UInt64.size) = some version)
    (hcontext : (es'.get? "context").elim (some none) (Value.optional? Value.entries?)
      = some context) :
    Reads es' { s with version := version, context := context } := by
  constructor
  · rw [hothers _ (by decide) (by decide), h.key]
  · rw [hothers _ (by decide) (by decide), h.phase]
  · rw [hothers _ (by decide) (by decide), h.flags]
  · rw [hothers _ (by decide) (by decide), h.start]
  · rw [hothers _ (by decide) (by decide), h.timeout]
  · rw [hothers _ (by decide) (by decide), h.callId]
  · rw [hothers _ (by decide) (by decide), h.fromUri]
  · rw [hothers _ (by decide) (by decide), h.toUri]
  · rw [hothers _ (by decide) (by decide), h.caller]
  · rw [hothers _ (by decide) (by decide), h.callee]
  · exact hversion
  · exact hcontext

/-- A snapshot that is written is read back as it was, with every bit of its flags and whatever is
in its context, and written again it is the same. The context is written if there is one; where it
is left out or null there is none, no address is bound where none is given, and a version that is
left out is zero. -/
theorem value_round_trip {s : Snapshot} (hstart : s.start.Regular) (hversion : s.version < 2 ^ 64) :
    ofValue? s.toValue = some s ∧
    (∀ s', ofValue? s.toValue = some s' → s'.toValue = s.toValue) ∧
    (∃ es : Entries, s.toValue = .map es ∧ (es.map (·.1)).Nodup ∧
      es.get? "context" = s.context.map Value.map) ∧
    (∀ (es es' : Entries) s, ofValue? (.map es) = some s → es.AlikeBut "context" es' →
      (es'.get? "context" = none ∨ es'.get? "context" = some .null) →
      ofValue? (.map es') = some { s with context := none }) ∧
    (∀ (es es' : Entries) s, ofValue? (.map es) = some s → es.AlikeBut "version" es' →
      es'.get? "version" = none → ofValue? (.map es') = some { s with version := 0 }) ∧
    ∀ (es es' : Entries) i, LegInfo.ofValue? (.map es) = some i → es.AlikeBut "bind_addr" es' →
      (es'.get? "bind_addr" = none ∨ es'.get? "bind_addr" = some .null) →
      LegInfo.ofValue? (.map es') = some { i with bindAddr := none } := by
  obtain ⟨es, hes, hnodup, hcontext⟩ := s.toValue_eq
  have hback : ofValue? s.toValue = some s := by
    rw [hes]
    exact ofValue?_map_iff.2 (reads_toValue hstart hversion hes)
  refine ⟨hback, fun s' hs' => ?_, ⟨es, hes, hnodup, hcontext⟩, fun es es' s hs halike hnone => ?_,
    fun es es' s hs halike hnone => ?_, fun es es' i hi halike hnone => ?_⟩
  · cases hback.symm.trans hs'
    rfl
  · have hreads := ofValue?_map_iff.1 hs
    apply ofValue?_map_iff.2
    apply hreads.with_defaults fun name _ hcontext => halike name hcontext
    · rw [halike _ (by decide), hreads.version]
    · exact Entries.left_out hnone
  · have hreads := ofValue?_map_iff.1 hs
    apply ofValue?_map_iff.2
    apply hreads.with_defaults fun name hversion _ => halike name hversion
    · rw [hnone, Option.elim_none]
    · rw [halike _ (by decide), hreads.context]
  · exact LegInfo.ofValue?_map_iff.2 ((LegInfo.ofValue?_map_iff.1 hi).unbound halike hnone)

/-- A dialog that started in a leap second, with flags that mean nothing here and the greatest
version. -/
def annotated : Snapshot where
  key := ⟨4294967295, 0⟩
  phase := .confirmedNa
  flags := ⟨4294967288⟩
  start := ⟨1483228799, 1500000000, by decide, by decide⟩
  timeout := 3600
  callId := "abc"
  fromUri := "sip:a"
  toUri := "sip:b"
  caller := { tag := "t1", bindAddr := some "udp:10.0.0.1:5060" }
  callee := {}
  version := 18446744073709551615
  context := some [("held", .bool true), ("notes", .list [.null])]

theorem value_round_trip_annotated :
    annotated.start.Regular ∧ annotated.version < 2 ^ 64 ∧
      ofValue? annotated.toValue = some annotated := by
  have hstart : annotated.start.Regular := .inr (by decide)
  have hversion : annotated.version < 2 ^ 64 := by decide
  exact ⟨hstart, hversion, (value_round_trip hstart hversion).1⟩

end Snapshot

end SipDialogs
