-- SUMMARY: Operations on different dialogs may be interleaved in any way, with the same outcome.
import SipDialogs.Proofs.Footprints
import SipDialogs.Proofs.Tagging

/-! # Interleavings

Two parties perform operations, each on dialogs of its own. However their operations are
interleaved, each of them answers what it would if its party were alone, and the registry ends as
if one party came after the other. The dialogs may share buckets and profiles, and they may end on
the way. -/

namespace SipDialogs

/-- The third list has the items of the other two, each of the two in its order. -/
inductive Interleaving {α : Type} : List α → List α → List α → Prop where
  | nil : Interleaving [] [] []
  | left {xs ys zs : List α} (x : α) (h : Interleaving xs ys zs) :
      Interleaving (x :: xs) ys (x :: zs)
  | right {xs ys zs : List α} (y : α) (h : Interleaving xs ys zs) :
      Interleaving xs (y :: ys) (y :: zs)

theorem Interleaving.forall_mem {α : Type} {P : α → Prop} {xs ys zs : List α}
    (h : Interleaving xs ys zs) (hxs : ∀ x ∈ xs, P x) (hys : ∀ y ∈ ys, P y) : ∀ z ∈ zs, P z := by
  induction h with
  | nil => exact hxs
  | left x _ ih =>
    obtain ⟨hx, hxs⟩ := List.forall_mem_cons.1 hxs
    exact List.forall_mem_cons.2 ⟨hx, ih hxs hys⟩
  | right y _ ih =>
    obtain ⟨hy, hys⟩ := List.forall_mem_cons.1 hys
    exact List.forall_mem_cons.2 ⟨hy, ih hxs hys⟩

/-! ## Effects of operations on different dialogs -/

namespace Stock

variable {late : Handle → Nat} {s : Stock} {key : Key} {op op' : Operation}

theorem after_of_target (hop : op.target? = some key) :
    s.after late op = s.take key (op.effect (s.late late) s.profiles (s.table.find? key)) := by
  rw [after, hop]

theorem Sound.effect_keeps (h : s.Sound) (late : Handle → Nat) (op : Operation) (key : Key) :
    (op.effect (s.late late) s.profiles (s.table.find? key)).Keeps key (s.table.find? key) :=
  op.effect_keeps (h.key_of_find? key) _ _

theorem Sound.after (h : s.Sound) (late : Handle → Nat) (op : Operation) :
    (s.after late op).Sound := by
  cases hop : op.target? with
  | none =>
    rw [Stock.after, hop]
    exact h
  | some key =>
    rw [after_of_target hop]
    exact h.take (h.effect_keeps late op key)

theorem Sound.foldl_after (h : s.Sound) (late : Handle → Nat) (ops : List Operation) :
    (ops.foldl (Stock.after late) s).Sound := by
  induction ops generalizing s with
  | nil => exact h
  | cons op ops ih => exact ih (h.after late op)

/-- An operation is not affected by another one on another dialog, and may change places with it. -/
theorem Sound.after_comm (h : s.Sound) (late : Handle → Nat) (hne : op.target? ≠ op'.target?) :
    (s.after late op).after late op' = (s.after late op').after late op := by
  cases hop : op.target? with
  | none => simp only [Stock.after, hop]
  | some key =>
    cases hop' : op'.target? with
    | none => simp only [Stock.after, hop, hop']
    | some key' =>
      have hkeys : key ≠ key' := fun heq => hne (by rw [hop, hop', heq])
      have hkeeps := h.effect_keeps late op key
      have hkeeps' := h.effect_keeps late op' key'
      rw [after_of_target hop, after_of_target hop', after_of_target hop, after_of_target hop',
        find?_take hkeeps, if_neg hkeys.symm, find?_take hkeeps', if_neg hkeys,
        op'.effect_congr (s.owning_take key _), op.effect_congr (s.owning_take key' _)]
      exact h.take_comm hkeys hkeeps hkeeps'

theorem Sound.foldl_after_comm (h : s.Sound) (late : Handle → Nat) {ops : List Operation}
    (hne : ∀ op' ∈ ops, op'.target? ≠ op.target?) :
    ops.foldl (Stock.after late) (s.after late op)
      = (ops.foldl (Stock.after late) s).after late op := by
  induction ops generalizing s with
  | nil => rfl
  | cons op' ops ih =>
    obtain ⟨hfirst, hrest⟩ := List.forall_mem_cons.1 hne
    rw [List.foldl_cons, List.foldl_cons, ← h.after_comm late hfirst]
    exact ih (h.after late op') hrest

/-- Interleaved operations of two parties come to the operations of one party after those of the
other. -/
theorem Sound.foldl_after_interleaving (h : s.Sound) (late : Handle → Nat)
    {xs ys zs : List Operation} (hzs : Interleaving xs ys zs)
    (hapart : ∀ x ∈ xs, ∀ y ∈ ys, x.target? ≠ y.target?) :
    zs.foldl (Stock.after late) s
      = ys.foldl (Stock.after late) (xs.foldl (Stock.after late) s) := by
  induction hzs generalizing s with
  | nil => rfl
  | left x hzs ih =>
    exact ih (h.after late x) fun x' hx' => hapart x' (List.mem_cons_of_mem x hx')
  | @right xs ys zs y hzs ih =>
    have hy : ∀ x ∈ xs, x.target? ≠ y.target? := fun x hx => hapart x hx y (List.mem_cons_self ..)
    -- the operation of the second party is put off until the first has nothing left to do
    rw [List.foldl_cons, List.foldl_cons,
      ih (h.after late y) fun x hx y' hy' => hapart x hx y' (List.mem_cons_of_mem y hy'),
      h.foldl_after_comm late hy]

end Stock

/-! ## Transcripts -/

/-- An operation and its answer. -/
abbrev Exchange := (op : Operation) × op.Reply

/-- The exchange without what observers entered. -/
def Exchange.bare (x : Exchange) : Exchange := ⟨x.1, x.1.bare x.2⟩

namespace Registry

/-- What the operations of a run answer, in order. -/
def transcript (env : Environment ε) (r : Registry ε) : List Operation → List Exchange
  | [] => []
  | op :: ops => ⟨op, r.reply env op⟩ :: transcript env (r.perform env op) ops

variable {env : Environment ε} {late : Handle → Nat} {r r' : Registry ε} {key : Key}
  {op : Operation} {ops : List Operation}

theorem sound_perform (henv : env.Aloof late) (h : r.stock.Sound) (hop : op.target?.isSome) :
    (r.perform env op).stock.Sound := by
  rw [perform_stock henv h hop]
  exact h.after late op

theorem performAll_stock (henv : env.Aloof late) (h : r.stock.Sound)
    (hops : ∀ op ∈ ops, op.target?.isSome) :
    (r.performAll env ops).stock = ops.foldl (Stock.after late) r.stock := by
  induction ops generalizing r with
  | nil => rfl
  | cons op ops ih =>
    obtain ⟨hop, hrest⟩ := List.forall_mem_cons.1 hops
    rw [List.foldl_cons, ← perform_stock henv h hop]
    exact ih (sound_perform henv h hop) hrest

/-- To the dialogs of these operations, the registries are the same. -/
structure AlikeFor (ops : List Operation) (r r' : Registry ε) : Prop where
  alike : ∀ op ∈ ops, ∀ key, op.target? = some key → Alike key r r'
  hasTimer : r'.hasTimer = r.hasTimer

/-- What stands under the keys after an operation on one dialog. -/
theorem find?_perform (henv : env.Aloof late) (h : r.stock.Sound) (hop : op.target? = some key)
    (k : Key) :
    (r.perform env op).table.find? k
      = if k = key then (op.effect (r.stock.late late) r.profiles (r.table.find? key)).left
        else r.table.find? k := by
  have hstock := perform_stock henv h (Option.isSome_of_mem hop)
  rw [Stock.after_of_target hop] at hstock
  have hfind := Stock.find?_take (h.effect_keeps late op key) k
  rw [← hstock] at hfind
  exact hfind

theorem heads_perform (henv : env.Aloof late) (h : r.stock.Sound) (hop : op.target? = some key) :
    (r.perform env op).profiles.owning = r.profiles.owning ∧
      (r.perform env op).hasTimer = r.hasTimer := by
  have hstock := perform_stock henv h (Option.isSome_of_mem hop)
  rw [Stock.after_of_target hop] at hstock
  have howning := r.stock.owning_take key
    (op.effect (r.stock.late late) r.stock.profiles (r.stock.table.find? key))
  rw [← hstock] at howning
  exact ⟨howning, congrArg Stock.hasTimer hstock⟩

/-- An operation leaves registries alike that are alike to its dialog. -/
theorem AlikeFor.perform (henv : env.Aloof late) (h : r.stock.Sound) (h' : r'.stock.Sound)
    (hlike : AlikeFor (op :: ops) r r') (hop : op.target? = some key) :
    AlikeFor ops (r.perform env op) (r'.perform env op) := by
  have hown : Alike key r r' := hlike.alike op (List.mem_cons_self ..) key hop
  have hlate : r'.stock.late late = r.stock.late late := by
    unfold Stock.late stock
    rw [hlike.hasTimer]
  obtain ⟨howning, htimer⟩ := heads_perform henv h hop
  obtain ⟨howning', htimer'⟩ := heads_perform henv h' hop
  refine ⟨fun op' hop' k hk => ⟨?_, ?_⟩, ?_⟩
  · have hother := hlike.alike op' (List.mem_cons_of_mem op hop') k hk
    rw [find?_perform henv h' hop, find?_perform henv h hop, op.effect_congr hown.owning, hlate,
      hown.find?, hother.find?]
  · rw [howning', howning, hown.owning]
  · rw [htimer', htimer, hlike.hasTimer]

/-- An operation on another dialog changes nothing for these. -/
theorem alikeFor_perform (henv : env.Aloof late) (h : r.stock.Sound)
    (hop : op.target? = some key) (hne : ∀ op' ∈ ops, op'.target? ≠ op.target?) :
    AlikeFor ops r (r.perform env op) := by
  obtain ⟨howning, htimer⟩ := heads_perform henv h hop
  refine ⟨fun op' hop' k hk => ⟨?_, howning⟩, htimer⟩
  have hkey : k ≠ key := fun heq => hne op' hop' (by rw [hk, hop, heq])
  rw [find?_perform henv h hop, if_neg hkey]

/-- A view of answers that the dialog decides in registries of the same mark. Operations on single
dialogs do not change the mark. -/
structure Decides {γ : Type} (env : Environment ε) (mark : Registry ε → γ)
    (view : Exchange → Exchange) : Prop where
  kept : ∀ r op, op.target?.isSome → mark (r.perform env op) = mark r
  decided : ∀ {r r' op key}, op.target? = some key → Alike key r r' → mark r' = mark r →
    view ⟨op, r'.reply env op⟩ = view ⟨op, r.reply env op⟩

/-- The dialog decides on its own, except for what observers enter. -/
theorem decides_bare (env : Environment ε) : Decides env (fun _ => ()) Exchange.bare where
  kept _ _ _ := rfl
  decided hop hlike _ := congrArg (Sigma.mk _) (hlike.bare_reply env hop)

/-- With the same observers it decides all, if they always answer the same to the same. -/
theorem decides_of_answers {answers : Observer → Snapshot → Notice → Entries}
    (henv : env.Answers answers) : Decides env (·.observers) id where
  kept r _ hop := henv.perform_observers r hop
  decided hop hlike hmark := congrArg (Sigma.mk _) (henv.reply_eq hlike hop hmark)

namespace Decides

variable {γ : Type} {mark : Registry ε → γ} {view : Exchange → Exchange}

/-- Operations answer the same in registries that are the same to their dialogs. -/
theorem transcript_congr (hview : Decides env mark view) (henv : env.Aloof late)
    (h : r.stock.Sound) (h' : r'.stock.Sound) (hops : ∀ op ∈ ops, op.target?.isSome)
    (hlike : AlikeFor ops r r') (hmark : mark r' = mark r) :
    (r'.transcript env ops).map view = (r.transcript env ops).map view := by
  induction ops generalizing r r' with
  | nil => rfl
  | cons op ops ih =>
    obtain ⟨hop, hrest⟩ := List.forall_mem_cons.1 hops
    obtain ⟨key, hkey⟩ := Option.isSome_iff_exists.1 hop
    have hown : Alike key r r' := hlike.alike op (List.mem_cons_self ..) key hkey
    have hmarks : mark (r'.perform env op) = mark (r.perform env op) := by
      rw [hview.kept r' op hop, hview.kept r op hop, hmark]
    simp only [transcript, List.map_cons]
    rw [hview.decided hkey hown hmark, ih (sound_perform henv h hop) (sound_perform henv h' hop)
      hrest (hlike.perform henv h h' hkey) hmarks]

/-- What the other party does to its dialogs changes no answer. -/
theorem transcript_perform (hview : Decides env mark view) (henv : env.Aloof late)
    (h : r.stock.Sound) (hops : ∀ op ∈ ops, op.target?.isSome) (hop : op.target?.isSome)
    (hne : ∀ op' ∈ ops, op'.target? ≠ op.target?) :
    ((r.perform env op).transcript env ops).map view = (r.transcript env ops).map view := by
  obtain ⟨key, hkey⟩ := Option.isSome_iff_exists.1 hop
  exact hview.transcript_congr henv h (sound_perform henv h hop) hops
    (alikeFor_perform henv h hkey hne) (hview.kept r op hop)

/-- Interleaved operations answer what they answer where their party is alone. -/
theorem interleaving (hview : Decides env mark view) (henv : env.Aloof late)
    (h : r.stock.Sound) {xs ys zs : List Operation} (hzs : Interleaving xs ys zs)
    (hxs : ∀ x ∈ xs, x.target?.isSome) (hys : ∀ y ∈ ys, y.target?.isSome)
    (hapart : ∀ x ∈ xs, ∀ y ∈ ys, x.target? ≠ y.target?) :
    Interleaving ((r.transcript env xs).map view) ((r.transcript env ys).map view)
      ((r.transcript env zs).map view) := by
  induction hzs generalizing r with
  | nil => exact .nil
  | @left xs ys zs x hzs ih =>
    obtain ⟨hx, hxs⟩ := List.forall_mem_cons.1 hxs
    obtain ⟨hfirst, hapart⟩ := List.forall_mem_cons.1 hapart
    -- the second party finds its dialogs as they were before this turn of the first
    have hothers := hview.transcript_perform henv h hys hx fun y hy => (hfirst y hy).symm
    have hrest := ih (sound_perform henv h hx) hxs hys hapart
    rw [hothers] at hrest
    exact .left _ hrest
  | @right xs ys zs y hzs ih =>
    obtain ⟨hy, hys⟩ := List.forall_mem_cons.1 hys
    have hfirst : ∀ x ∈ xs, x.target? ≠ y.target? := fun x hx =>
      hapart x hx y (List.mem_cons_self ..)
    have hothers := hview.transcript_perform henv h hxs hy hfirst
    have hrest := ih (sound_perform henv h hy) hxs hys fun x hx y' hy' =>
      hapart x hx y' (List.mem_cons_of_mem y hy')
    rw [hothers] at hrest
    exact .right _ hrest

end Decides

/-! ## Independence -/

/-- What two parties do in turns is as if each of them were alone with the registry. -/
structure Independent (env : Environment ε) (r : Registry ε) (xs ys zs : List Operation) :
    Prop where
  /-- Cells, numbers of the next dialogs and counters are those of one party after the other. -/
  table : (r.performAll env zs).table = ((r.performAll env xs).performAll env ys).table
  profiles : (r.performAll env zs).profiles = ((r.performAll env xs).performAll env ys).profiles
  /-- Each operation answers what it answers where its party is alone. -/
  replies : Interleaving ((r.transcript env xs).map Exchange.bare)
    ((r.transcript env ys).map Exchange.bare) ((r.transcript env zs).map Exchange.bare)
  /-- So does what observers enter, if they always answer the same to the same. -/
  contexts : ∀ answers, env.Answers answers →
    Interleaving (r.transcript env xs) (r.transcript env ys) (r.transcript env zs)

theorem Reachable.sound_stock (h : r.Reachable) : r.stock.Sound :=
  ⟨h.wf, h.files.distinct⟩

/-- Operations on different dialogs are independent, also if the dialogs share buckets and profiles
and end on the way: whichever way two parties take turns, each operation answers what it answers
where its party is alone, and the outcome is that of one party after the other. -/
theorem Reachable.interleave (h : r.Reachable) (henv : env.Aloof late)
    {xs ys : List Operation} (hxs : ∀ x ∈ xs, x.target?.isSome)
    (hys : ∀ y ∈ ys, y.target?.isSome) (hapart : ∀ x ∈ xs, ∀ y ∈ ys, x.target? ≠ y.target?)
    {zs : List Operation} (hzs : Interleaving xs ys zs) : Independent env r xs ys zs := by
  have hsound := h.sound_stock
  have hxs' := performAll_stock henv hsound hxs
  have hys' : ((r.performAll env xs).performAll env ys).stock
      = ys.foldl (Stock.after late) (xs.foldl (Stock.after late) r.stock) := by
    rw [← hxs']
    refine performAll_stock henv ?_ hys
    rw [hxs']
    exact hsound.foldl_after late xs
  have hzs' := performAll_stock henv hsound (hzs.forall_mem hxs hys)
  have hsame : (r.performAll env zs).stock = ((r.performAll env xs).performAll env ys).stock := by
    rw [hzs', hys', hsound.foldl_after_interleaving late hzs hapart]
  exact {
    table := congrArg Stock.table hsame
    profiles := congrArg Stock.profiles hsame
    replies := (decides_bare env).interleaving henv hsound hzs hxs hys hapart
    contexts := fun answers hanswers => by
      simpa using (decides_of_answers hanswers).interleaving henv hsound hzs hxs hys hapart }

/-! Two dialogs that share a bucket, a profile and its bucket. One of them ends while the other is
still being worked on. -/

/-- Two calls of the same user. -/
def calls : Registry Unit :=
  lobby.performAll .quiet
    [.insert { callId := "abc", fromUri := "sip:a", toUri := "sip:b", fromTag := "t1" } 1,
      .insert { callId := "def", fromUri := "sip:a", toUri := "sip:c", fromTag := "t2" } 1,
      .attach ⟨0, 0⟩ alice.profile alice.value, .attach ⟨0, 1⟩ alice.profile alice.value,
      .attach ⟨0, 0⟩ alice.profile alice.value]

theorem calls_reachable : calls.Reachable :=
  lobby_reachable.performAll Environment.quiet_lawful _

/-- The first call ends. One of its memberships is removed before, the other with its end. -/
def ending : List Operation :=
  [.detach ⟨0, 0⟩ alice.profile alice.value, .release ⟨0, 0⟩ 2, .addRefs ⟨0, 0⟩ 1]

/-- The second call goes on. -/
def lasting : List Operation :=
  [.processEvent ⟨0, 1⟩ .successResponse, .snapshot ⟨0, 1⟩ true, .updateCseq ⟨0, 1⟩ .callee "2"]

def mixed : List Operation :=
  [.detach ⟨0, 0⟩ alice.profile alice.value, .processEvent ⟨0, 1⟩ .successResponse,
    .release ⟨0, 0⟩ 2, .snapshot ⟨0, 1⟩ true, .addRefs ⟨0, 0⟩ 1, .updateCseq ⟨0, 1⟩ .callee "2"]

theorem mixed_interleaving : Interleaving ending lasting mixed :=
  .left _ (.right _ (.left _ (.right _ (.left _ (.right _ .nil)))))

theorem quiet_aloof : Environment.quiet.Aloof fun _ => 0 where
  observe _ _ _ _ := rfl
  cancel _ _ := rfl

theorem Reachable.interleave_ending :
    Independent .quiet calls ending lasting mixed ∧
      (calls.performAll .quiet mixed).table.counters
        = { created := 2, destroyed := 1, refAnomalies := 1 } ∧
      (calls.performAll .quiet mixed).profiles.profiles.map (·.members)
        = [[⟨2, ⟨0, 1⟩, some "alice"⟩]] := by
  have hxs : ∀ x ∈ ending, x.target?.isSome := by decide
  have hys : ∀ y ∈ lasting, y.target?.isSome := by decide
  have hapart : ∀ x ∈ ending, ∀ y ∈ lasting, x.target? ≠ y.target? := by decide
  exact ⟨Reachable.interleave calls_reachable quiet_aloof hxs hys hapart mixed_interleaving,
    by decide +kernel, by decide +kernel⟩

end Registry

end SipDialogs
