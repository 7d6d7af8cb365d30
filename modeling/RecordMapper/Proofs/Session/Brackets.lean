import Mathlib.Data.List.Induction
import RecordMapper.Proofs.Session.Wire

namespace RecordMapper

namespace Sent

def opens (e : Sent) : Bool := decide (e.signal = .begin) && !e.failed

def closes (e : Sent) : Bool := decide (e.signal = .commit) || decide (e.signal = .rollback)

def writes (e : Sent) : Bool :=
  match e.signal with
  | .statement call => call.kind = .execute
  | _ => false

end Sent

/-- Whether something sent ends within a bracket that is open, and what that bracket holds. -/
def EndsInside (w inside : List Sent) : Prop :=
  ∃ before e, w = before ++ e :: inside ∧ e.opens = true ∧
    ∀ x ∈ inside, x.opens = false ∧ x.closes = false

def bracket (w : List Sent) : Option (List Sent) :=
  w.foldl (fun inside e =>
    if e.opens then some [] else if e.closes then none else inside.map (· ++ [e])) none

theorem bracket_concat (w : List Sent) (e : Sent) :
    bracket (w ++ [e]) =
      if e.opens then some [] else if e.closes then none else (bracket w).map (· ++ [e]) := by
  simp [bracket]

theorem bracket_eq_some {w inside : List Sent} : bracket w = some inside ↔ EndsInside w inside := by
  -- the last signal decides whether a bracket is open, so the induction takes signals off the end
  induction w using List.reverseRecOn generalizing inside with
  | nil => simp [bracket, EndsInside]
  | append_singleton w e ih =>
    rw [bracket_concat]
    constructor
    · intro h
      split at h
      · rename_i hopens
        cases h
        exact ⟨w, e, rfl, hopens, by simp⟩
      split at h
      · contradiction
      · rename_i hopens hcloses
        obtain ⟨held, hheld, rfl⟩ := Option.map_eq_some_iff.1 h
        obtain ⟨before, first, rfl, hfirst, hothers⟩ := ih.1 hheld
        refine ⟨before, first, by simp, hfirst, fun x hx => ?_⟩
        rcases List.mem_append.1 hx with hx | hx
        · exact hothers x hx
        · obtain rfl := List.mem_singleton.1 hx
          exact ⟨by simpa using hopens, by simpa using hcloses⟩
    · rintro ⟨before, first, hw, hfirst, hothers⟩
      -- the bracket was opened by the last signal or by one before it
      rcases split_concat hw with ⟨rfl, rfl, rfl⟩ | ⟨held, rfl, rfl⟩
      · simp [hfirst]
      · obtain ⟨hopens, hcloses⟩ := hothers e (by simp)
        have hheld : bracket (before ++ first :: held) = some held :=
          ih.2 ⟨before, first, rfl, hfirst, fun x hx => hothers x (by simp [hx])⟩
        simp [hopens, hcloses, hheld]

theorem isSome_bracket {w : List Sent} :
    (bracket w).isSome = true ↔ ∃ inside, EndsInside w inside := by
  simp only [Option.isSome_iff_exists, bracket_eq_some]

/-- Whether beginnings, and nothing else, are sent outside of brackets. -/
def Placed (w : List Sent) : Prop :=
  ∀ before e after, w = before ++ e :: after → (bracket before = none ↔ e.signal = .begin)

theorem Placed.concat {w : List Sent} {e : Sent} (hw : Placed w)
    (he : bracket w = none ↔ e.signal = .begin) : Placed (w ++ [e]) := by
  intro before x after hsplit
  rcases split_concat hsplit with ⟨rfl, rfl, _⟩ | ⟨after, _, hbefore⟩
  · exact he
  · exact hw before x after hbefore

theorem Placed.open_add_ends {before between after : List Sent}
    (hw : Placed (before ++ between ++ after)) (hbetween : ∀ e ∈ between, e.opens = false) :
    (bracket (before ++ between)).isSome.toNat + between.countP Sent.closes =
      (bracket before).isSome.toNat := by
  induction between generalizing before with
  | nil => simp
  | cons e between ih =>
    have hopens := hbetween e (List.mem_cons_self ..)
    have hregrouped : Placed (before ++ [e] ++ between ++ after) := by simpa using hw
    have hstep := ih hregrouped fun x hx => hbetween x (List.mem_cons_of_mem e hx)
    rw [List.append_assoc, List.singleton_append, bracket_concat] at hstep
    rw [List.countP_cons]
    cases hcloses : e.closes with
    | false => simpa [hopens, hcloses] using hstep
    | true =>
      have hbegin : e.signal ≠ .begin := by
        rintro hbegin
        simp [Sent.closes, hbegin] at hcloses
      have hplaced := mt (hw before e (between ++ after) (by simp)).1 hbegin
      obtain ⟨inside, hinside⟩ := Option.ne_none_iff_exists'.1 hplaced
      simp only [hopens, hcloses, Bool.false_eq_true, if_false, if_true, Option.isSome_none,
        Bool.toNat_false] at hstep
      simp only [hinside, if_true, Option.isSome_some, Bool.toNat_true]
      omega

theorem Placed.one_end {before between after : List Sent} {b b' : Sent}
    (hw : Placed (before ++ b :: (between ++ b' :: after))) (hb : b.opens = true)
    (hb' : b'.opens = true) (hbetween : ∀ e ∈ between, e.opens = false) :
    between.countP Sent.closes = 1 := by
  have hregrouped : Placed (before ++ [b] ++ between ++ b' :: after) := by simpa using hw
  have hends := hregrouped.open_add_ends hbetween
  have hsignal : b'.signal = .begin := by
    simp only [Sent.opens, Bool.and_eq_true, decide_eq_true_eq] at hb'
    exact hb'.1
  have hclosed : bracket (before ++ [b] ++ between) = none :=
    (hw _ b' after (by simp)).2 hsignal
  rw [hclosed, bracket_concat, hb] at hends
  simpa using hends

structure Brackets (w : List Sent) (s : Session σ) : Prop where
  inTransaction : s.inTransaction = (bracket w).isSome
  pendingWrites : s.pendingWrites = ((bracket w).getD []).any Sent.writes
  connected : s.inTransaction = true → s.connected = true
  placed : Placed w

namespace Brackets

variable {c : Connection σ} {w : List Sent} {s t : Session σ}

theorem bracket_of_closed (hs : Brackets w s) (h : s.inTransaction = false) :
    bracket w = none := by
  simpa [h] using hs.inTransaction

theorem bracket_of_open (hs : Brackets w s) (h : s.inTransaction = true) :
    ∃ inside, bracket w = some inside := by
  simpa [h, Option.isSome_iff_exists] using hs.inTransaction

theorem pendingWrites_of_closed (hs : Brackets w s) (h : s.inTransaction = false) :
    s.pendingWrites = false := by
  simpa [hs.bracket_of_closed h] using hs.pendingWrites

theorem ended (hs : Brackets w s) (h : s.inTransaction = true) {signal : Signal}
    (hsignal : signal = .commit ∨ signal = .rollback) {l : σ} (hopen : t.inTransaction = false)
    (hpending : t.pendingWrites = false) : Brackets (w ++ [signal.to c l]) t := by
  obtain ⟨inside, hinside⟩ := hs.bracket_of_open h
  have hend : bracket (w ++ [signal.to c l]) = none := by
    rcases hsignal with rfl | rfl <;>
      simp [bracket_concat, Sent.opens, Sent.closes, Signal.to]
  refine ⟨by simp [hend, hopen], by simp [hend, hpending], by simp [hopen], hs.placed.concat ?_⟩
  rcases hsignal with rfl | rfl <;> simp [hinside, Signal.to]

theorem step {more : List Sent} (hs : Brackets w s) (h : Session.Step c s more t) :
    Brackets (w ++ more) t := by
  cases h with
  | connected =>
    rw [List.append_nil]
    exact ⟨hs.inTransaction, hs.pendingWrites, fun _ => rfl, hs.placed⟩
  | logged =>
    rw [List.append_nil]
    exact ⟨hs.inTransaction, hs.pendingWrites, hs.connected, hs.placed⟩
  | begun hconnected hclosed _ =>
    have hnone := hs.bracket_of_closed hclosed
    have hbegun : bracket (w ++ [⟨.begin, false⟩]) = some [] := by
      simp [bracket_concat, Sent.opens]
    refine ⟨by simp [hbegun], ?_, fun _ => hconnected, hs.placed.concat (by simp [hnone])⟩
    simpa [hbegun, Session.sent] using hs.pendingWrites_of_closed hclosed
  | notBegun hconnected hclosed _ =>
    have hnone := hs.bracket_of_closed hclosed
    have hstill : bracket (w ++ [⟨.begin, true⟩]) = none := by
      simp [bracket_concat, Sent.opens, Sent.closes, hnone]
    refine ⟨?_, ?_, fun _ => hconnected, hs.placed.concat (by simp [hnone])⟩
    · simpa [hstill, Session.sent] using hclosed
    · simpa [hstill, Session.sent] using hs.pendingWrites_of_closed hclosed
  | stated call hopen =>
    obtain ⟨inside, hinside⟩ := hs.bracket_of_open hopen
    have hheld : bracket (w ++ [(Signal.statement call).to c s.link]) =
        some (inside ++ [(Signal.statement call).to c s.link]) := by
      simp [bracket_concat, Sent.opens, Sent.closes, Signal.to, hinside]
    refine ⟨?_, ?_, fun _ => hs.connected hopen, hs.placed.concat (by simp [hinside, Signal.to])⟩
    · simpa [hheld, Session.sent] using hopen
    · have hwrites : ((Signal.statement call).to c s.link).writes =
          decide (call.kind = CallKind.execute) := rfl
      simp [hheld, Session.sent, hs.pendingWrites, hinside, hwrites]
  | committed hopen => exact hs.ended hopen (.inl rfl) rfl rfl
  | rolledBack _ hopen => exact hs.ended hopen (.inr rfl) rfl rfl
  | ended hclosed =>
    rw [List.append_nil]
    refine ⟨hs.inTransaction, hs.pendingWrites, fun h => ?_, hs.placed⟩
    exact absurd (hclosed.symm.trans h) (by simp)

end Brackets

namespace Session

variable (c : Connection σ)

def unsaved : LogLine := ⟨.warn, "Session disconnected with uncommitted changes, rolling back"⟩

/-- Whether the end of a session is announced as one that takes back writes exactly if it is. The
connection may announce its own call as it likes. -/
def Warns (takesBack : Bool) (s ended : Session σ) : Prop :=
  ∃ rest, ended.log = s.log ++ (if takesBack then [unsaved] else []) ++ rest ∧
    ∀ line ∈ rest, line = unsaved → line ∈ c.announce "ROLLBACK"

variable {c}

theorem Warns.logged {takesBack : Bool} {s ended : Session σ} (h : Warns c takesBack s ended)
    {level : LogLevel} {text : String} (hline : (⟨level, text⟩ : LogLine) ≠ unsaved) :
    Warns c takesBack s (ended.logged level text) := by
  obtain ⟨rest, hlog, hrest⟩ := h
  refine ⟨rest ++ [⟨level, text⟩], by simp [Session.logged, hlog], fun line hmem heq => ?_⟩
  rcases List.mem_append.1 hmem with hmem | hmem
  · exact hrest line hmem heq
  · obtain rfl := List.mem_singleton.1 hmem
    exact absurd heq hline

theorem Warns.ended {takesBack : Bool} {s t : Session σ} (h : Warns c takesBack s t) :
    Warns c takesBack s t.ended := by
  have hdisconnected : Warns c takesBack s { t with connected := false } := h
  exact hdisconnected.logged (by simp [unsaved])

variable (c)

theorem warns_same (s : Session σ) : Warns c false s s := ⟨[], by simp, by simp⟩

theorem warns_rolledBack (s : Session σ) : Warns c s.pendingWrites s (s.rolledBack c) := by
  refine ⟨c.announce "ROLLBACK", ?_, fun line hline _ => hline⟩
  rw [rolledBack, sent, warned]
  cases s.pendingWrites <;> simp [Session.logged, unsaved, Call.rollback]

theorem warns_disconnect {s : Session σ}
    (hclosed : s.inTransaction = false → s.pendingWrites = false)
    (hconnected : s.inTransaction = true → s.connected = true) :
    Warns c s.pendingWrites s (disconnect c s).2 := by
  rw [disconnect_apply]
  cases hopen : s.inTransaction with
  | false =>
    rw [hclosed hopen]
    split
    · exact warns_same c s
    · exact (warns_same c s).ended
  | true =>
    rw [if_neg (by simp [hconnected hopen]), if_neg (by simp)]
    split
    · exact (warns_rolledBack c s).ended
    · exact warns_rolledBack c s

theorem failedToDisconnect_ne (message : String) :
    (⟨.warn, "Failed to disconnect session: " ++ message⟩ : LogLine) ≠ unsaved := by
  intro h
  have htext := congrArg (fun line => line.text.toList.head?) h
  simp [unsaved] at htext

theorem warns_close {s : Session σ} (hclosed : s.inTransaction = false → s.pendingWrites = false)
    (hconnected : s.inTransaction = true → s.connected = true) :
    Warns c s.pendingWrites s (s.close c) := by
  have hdisconnect := warns_disconnect c hclosed hconnected
  rw [close]
  split
  · rename_i h
    rwa [h] at hdisconnect
  · rename_i h
    rw [h] at hdisconnect
    exact hdisconnect.logged (failedToDisconnect_ne _)

theorem beginIfNeeded_of_unconnected {s : Session σ} (h : s.connected = false) :
    beginIfNeeded c s = (.error (.invalidArgument .notConnected), s) := by
  rw [beginIfNeeded_apply, if_pos h]

theorem statement_of_unconnected {s : Session σ} (h : s.connected = false) (call : Call) :
    statement c call s = (.error (.invalidArgument .notConnected), s) := by
  rw [statement_apply, beginIfNeeded_of_unconnected c h]

theorem link_meetAll_of_unconnected {s : Session σ} (h : s.connected = false)
    (hclosed : s.inTransaction = false) (rs : List Request) :
    (meetAll c rs s).2.link = s.link := by
  induction rs generalizing s with
  | nil => rfl
  | cons r rs ih =>
    rw [meetAll, bind_apply]
    cases r with
    | statement call => rw [meet, statement_of_unconnected c h]
    | commit =>
      rw [meet, commit_apply, if_neg (by simp [hclosed])]
      exact ih h hclosed
    | report level text => exact ih (s := s.logged level text) h hclosed
    | fail e => rfl

theorem link_run_of_unconnected {s : Session σ} (h : s.connected = false)
    (hclosed : s.inTransaction = false) (op : Operation) : (op.run c s).2.link = s.link := by
  cases op with
  | connect =>
    simp only [Operation.run, connect, get_bind_apply, h]
    rfl
  | disconnect => simp [Operation.run, disconnect_apply, h]
  | act a =>
    rw [Operation.run, a.state_run]
    exact link_meetAll_of_unconnected c h hclosed _

end Session

/-- In all that a session sends, statements and ends of transactions lie in brackets, and beginnings
between them; between two brackets lies one attempt to end the first. Nothing is sent without a
connection. The session knows whether the last bracket is open, and its end warns exactly if the
bracket that it takes back holds a write. Where the caller's own statements leave transactions
alone, the texts of the calls alone tell what is a statement. -/
theorem brackets_of_run (c : Connection σ) (d : Dialect) (link : σ) (ops : List Operation) :
    let start := Session.fresh d (link, ([] : List (Entry σ)))
    let s := Session.runAll c.recorded ops start
    let w := Session.wire c.recorded ops start
    s.link.2.map Entry.outcome = w.map Sent.outcome ∧
      (∀ before e after, w = before ++ e :: after →
        ((∃ inside, EndsInside before inside) ↔ e.signal ≠ .begin)) ∧
      (∀ before b between b' after, w = before ++ b :: (between ++ b' :: after) →
        b.opens = true → b'.opens = true → (∀ e ∈ between, e.opens = false) →
        between.countP Sent.closes = 1) ∧
      (s.connected = false → (s.close c.recorded).link = s.link ∧
        ∀ op : Operation, (op.run c.recorded s).2.link = s.link) ∧
      (s.inTransaction = true ↔ ∃ inside, EndsInside w inside) ∧
      (s.inTransaction = true → s.connected = true) ∧
      (∀ s', s' = (Session.disconnect c.recorded s).2 ∨ s' = s.close c.recorded →
        ∃ takesBack, Session.Warns c.recorded takesBack s s' ∧
          (takesBack = true ↔ ∃ inside, EndsInside w inside ∧ ∃ e ∈ inside, e.writes = true)) ∧
      ((∀ op ∈ ops, op.Ordinary) → ∀ e ∈ w, e.signal = .ofCall e.signal.call) := by
  intro start s w
  have hsteps : Session.Steps c.recorded start w s := Session.steps_runAll c.recorded ops start
  have hs : Brackets w s := by
    have hstart : Brackets [] start := ⟨rfl, rfl, nofun, by simp [Placed]⟩
    exact hsteps.keep Brackets.step hstart
  have hunsaved : s.pendingWrites = true ↔
      ∃ inside, EndsInside w inside ∧ ∃ e ∈ inside, e.writes = true := by
    rw [hs.pendingWrites]
    simp only [← bracket_eq_some]
    cases bracket w <;> simp
  have hclosed : s.inTransaction = false → s.pendingWrites = false := hs.pendingWrites_of_closed
  refine ⟨?_, ?_, ?_, ?_, ?_, hs.connected, ?_, ?_⟩
  · simpa [start, Session.fresh] using Session.received_steps c hsteps
  · intro before e after hw
    rw [← isSome_bracket, ← not_iff_not, Option.not_isSome_iff_eq_none, not_not]
    exact hs.placed before e after hw
  · intro before b between b' after hw hb hb' hbetween
    exact Placed.one_end (hw ▸ hs.placed) hb hb' hbetween
  · intro hconnected
    have hopen : s.inTransaction = false := by
      rw [← Bool.not_eq_true]
      exact fun h => absurd (hs.connected h) (by simp [hconnected])
    rw [Session.close_link]
    exact ⟨(Session.disconnect_of_closed c.recorded hopen).2,
      Session.link_run_of_unconnected c.recorded hconnected hopen⟩
  · rw [hs.inTransaction, isSome_bracket]
  · rintro s' (rfl | rfl)
    · exact ⟨s.pendingWrites, Session.warns_disconnect c.recorded hclosed hs.connected, hunsaved⟩
    · exact ⟨s.pendingWrites, Session.warns_close c.recorded hclosed hs.connected, hunsaved⟩
  · intro hops e he
    refine Signal.eq_ofCall fun call hcall => ?_
    obtain ⟨a, ha, d', hrequest⟩ := Session.mem_wire he hcall
    exact a.ordinary_requests (hops _ ha) d' _ hrequest

end RecordMapper
