import Trpc.Rpc.RecordDispatchInv

/-!
# What the owner does to a call

The owner sends a record of the reply or the command of the producer, submits a
task, or takes in a record.  Each of these keeps `DispatchCall.Ok`.
-/

namespace Trpc

open List

namespace DispatchCall

variable {c c' : DispatchCall} {job : DispatchJob} {p : Producer}

/-! ## A reply is sent -/

theorem internal_ne_ok : rpcStatusInternal ≠ rpcStatusOk := by decide

theorem Past.sent (h : c.Past) (job : DispatchJob) (kind : RpcRecordKind) :
    (c.sent job kind).Past := by
  cases kind <;> exact { h with grammar := h.grammar }

theorem sent_terminal (c : DispatchCall) (job : DispatchJob) (kind : RpcRecordKind) :
    (c.sent job kind).terminal = c.terminal := by
  cases kind <;> rfl

/-- The call goes on after an INITIAL or a message of the reply. -/
theorem Live.sent (h : c.Live) (hready : c.ready = some job) {record : SentRecord}
    (hrecord : c.nextRecord job = some record) (next : RpcRecordState)
    (hkind : record.kind ≠ .finalStatus) :
    ((c.accept record next).sent job record.kind).Live := by
  obtain ⟨hsubmitted, hproducer⟩ := h.alone job hready
  have hok := h.ready job hready
  rcases nextRecord_cases c job with ⟨hnone, _⟩ | ⟨hnext, _⟩ | ⟨body, rest, hbodies, hnext⟩ |
    ⟨_, _, hnext⟩
  · cases hnone.symm.trans hrecord
  · cases hnext.symm.trans hrecord
    exact {
      stopped := h.stopped
      whole := by
        rcases h.whole with (⟨other, hother, hfinished, hempty⟩ | hfailed) | hwhole
        · cases hready.symm.trans hother
          exact .inl (.inl ⟨_, rfl, hfinished, hempty⟩)
        · exact .inl (.inr hfailed)
        · rw [h.waiting_eq hready] at hwhole
          refine .inr (Eq.trans ?_ hwhole)
          simp [messages, DispatchCall.waiting, mailbox, DispatchCall.sent, accept, hsubmitted,
            hproducer, SentRecord.data]
      alone := fun other hother => ⟨hsubmitted, hproducer⟩
      ready := fun other hother => by
        cases hother
        exact ⟨hok.refused, hok.known, fun _ _ _ => .inl rfl, hok.trailing,
          fun res hres hid hf => ⟨(hok.failed res hres hid hf).1, rfl,
            (hok.failed res hres hid hf).2.2⟩⟩
      rejected := h.rejected
      dying := fun hfailed => by
        rcases h.dying hfailed with ⟨other, hother, hfinished, hstatus⟩ | hrejected
        · cases hready.symm.trans hother
          exact .inl ⟨_, rfl, hfinished, hstatus⟩
        · exact .inr hrejected }
  · cases hnext.symm.trans hrecord
    exact {
      stopped := h.stopped
      whole := by
        rcases h.whole with (⟨other, hother, _, hempty⟩ | hfailed) | hwhole
        · cases hready.symm.trans hother
          rw [hempty] at hbodies
          cases hbodies
        · cases (h.unrejected hready).symm.trans hfailed
        · rw [h.waiting_eq hready, hbodies] at hwhole
          refine .inr (Eq.trans ?_ hwhole)
          simp [messages, DispatchCall.waiting, mailbox, DispatchCall.sent, accept, hsubmitted,
            hproducer, hbodies, SentRecord.data]
      alone := fun other hother => ⟨hsubmitted, hproducer⟩
      ready := fun other hother => by
        cases hother
        refine ⟨fun hstatus => ⟨(hok.refused hstatus).1, ?_⟩, hok.known, hok.initial,
          hok.trailing, hok.failed⟩
        show job.reply.bodies.tail = []
        rw [(hok.refused hstatus).2, tail_nil]
      rejected := h.rejected
      dying := fun hfailed => by
        rcases h.dying hfailed with ⟨other, hother, hfinished, hstatus⟩ | hrejected
        · cases hready.symm.trans hother
          exact .inl ⟨_, rfl, hfinished, hstatus⟩
        · exact .inr hrejected }
  · cases hnext.symm.trans hrecord
    exact absurd rfl hkind

/-- A refused record leaves an error FINAL to send, or ends the call. -/
theorem Ok.refused (h : c.Ok) (hlive : c.terminal = false) (hclean : c.cleanup = false)
    (hready : c.ready = some job) (ret : Status) : (c.refused job ret).settle.Ok := by
  have hl := h.live hlive hclean
  unfold DispatchCall.refused
  split
  · have hok := hl.ready job hready
    refine Ok.settle ⟨{ h.past.drop with grammar := h.past.grammar }, fun _ _ => ?_⟩
    exact {
      stopped := hl.stopped
      whole := .inl (.inl ⟨_, rfl, rfl, rfl⟩)
      alone := fun _ _ => hl.alone job hready
      ready := fun other hother => by
        cases hother
        exact ⟨fun _ => ⟨rfl, rfl⟩, hok.known, hok.initial, hok.trailing,
          fun res hres hid hf => ⟨internal_ne_ok, (hok.failed res hres hid hf).2⟩⟩
      rejected := hl.rejected
      dying := fun _ => .inl ⟨_, rfl, rfl, internal_ne_ok⟩ }
  · exact h.past.finish _

/-- A reply that ends the call well is the last of all, and none has failed. -/
theorem Live.reply_sealed (h : c.Live) (hpast : c.Past) (hready : c.ready = some job)
    (hcalm : ¬ c.failedAt ≠ none) :
    c.submitted = none ∧ ∀ res ∈ c.results, res.reply.failed = false := by
  have hsubmitted := (h.alone job hready).1
  refine ⟨hsubmitted, fun res hres => Bool.eq_false_iff.2 fun hf => ?_⟩
  rcases hpast.noted res hres hf with hnoted | ⟨other, hother, _⟩
  · exact hcalm hnoted
  · cases hsubmitted.symm.trans hother

theorem Ok.replyStep (h : c.Ok) (hlive : c.terminal = false) (hclean : c.cleanup = false)
    (hready : c.ready = some job) (answer : DispatchAnswer) : (c.replyStep job answer).Ok := by
  have hl := h.live hlive hclean
  unfold DispatchCall.replyStep
  cases hrecord : c.nextRecord job with
  | none =>
    dsimp only
    -- nothing is left of the reply, and it was not the last one
    have hopen : job.reply.bodies = [] ∧ job.reply.finished = false := by
      rcases nextRecord_cases c job with ⟨_, hopen⟩ | ⟨hnext, _⟩ | ⟨_, _, _, hnext⟩ | ⟨_, _, hnext⟩
      · exact hopen
      all_goals exact absurd (hnext.symm.trans hrecord) (by simp)
    obtain ⟨hsubmitted, hproducer⟩ := hl.alone job hready
    refine ⟨{ h.past with grammar := h.past.grammar }, fun _ _ => ?_⟩
    exact {
      stopped := hl.stopped
      whole := by
        rcases hl.whole with (⟨other, hother, hfinished, _⟩ | hfailed) | hwhole
        · cases hready.symm.trans hother
          cases hopen.2.symm.trans hfinished
        · cases (hl.unrejected hready).symm.trans hfailed
        · rw [hl.waiting_eq hready, hopen.1] at hwhole
          refine .inr (Eq.trans ?_ hwhole)
          simp [messages, DispatchCall.waiting, mailbox, hsubmitted, hproducer]
      alone := fun _ hother => absurd hother (by simp)
      ready := fun _ hother => absurd hother (by simp)
      rejected := hl.rejected
      dying := fun hfailed => by
        rcases hl.dying hfailed with ⟨other, hother, hfinished, _⟩ | hrejected
        · cases hready.symm.trans hother
          cases hopen.2.symm.trans hfinished
        · exact .inr hrejected }
  | some record =>
    dsimp only
    rcases send_cases c record answer with ⟨ret, hret, hsend | ⟨status, hsend⟩⟩ |
      ⟨_, next, hnext, hout⟩
    · rw [hsend]
      cases ret
      case ok => exact absurd rfl hret
      case again => exact h.settle
      all_goals exact h.refused hlive hclean hready _
    · rw [hsend]
      have hended : ∀ ret, (c.abort status).refused job ret = c.abort status := by
        intro ret
        unfold DispatchCall.refused
        rw [if_neg (fun hcase => by
          rw [abort_terminal] at hcase
          exact absurd hcase.2.1 (by simp))]
        rw [DispatchCall.abort, if_pos (abort_terminal c status)]
      cases ret
      case ok => exact absurd rfl hret
      case again => exact h.past.finish status
      all_goals
        dsimp only
        rw [hended]
        exact h.past.finish status
    · have hpast := h.past.accept hlive hnext (hl.record_sound h.past hready hrecord)
        (fair_of_ready (hl.ready job hready) hrecord) (hl.record_fails hready hrecord)
        fun hsucceeds _ => hl.reply_sealed h.past hready fun hf =>
          hl.record_fails hready hrecord hf hsucceeds
      rcases hout with hsend | ⟨status, hsend⟩
      · rw [hsend]
        dsimp only
        refine Ok.settle ⟨hpast.sent job record.kind, fun hterminal _ => ?_⟩
        refine hl.sent hready hrecord next fun hkind => ?_
        rw [sent_terminal] at hterminal
        exact absurd (hterminal.symm.trans ((accept_terminal h.past hlive hnext).2 hkind))
          Bool.false_ne_true
      · rw [hsend]
        dsimp only
        refine Ok.settle (((hpast.abort status).sent job record.kind).ok_of_terminal ?_)
        rw [sent_terminal, abort_terminal]

/-! ## A command is sent -/

/-- What a borrow of the command may do. -/
theorem take_spec (p : Producer) (busy : Bool) :
    p.take busy = .error .again ∨ p.take busy = .error .errClosed ∨
      ∃ command, p.command = some command ∧ p.building = false ∧ p.closed = false ∧
        p.take busy = .ok (command, { p with inSend := true }) := by
  unfold Producer.take
  cases busy with
  | true => exact .inl rfl
  | false =>
    rw [if_neg Bool.false_ne_true]
    cases hclosed : p.closed with
    | true => exact .inr (.inl rfl)
    | false =>
      rw [if_neg Bool.false_ne_true]
      cases hkind : p.kind with
      | none => exact .inl rfl
      | some kind =>
        dsimp only
        split
        · exact .inl rfl
        next hfree =>
          refine .inr (.inr ⟨_, ?_, ?_, rfl, rfl⟩)
          · unfold Producer.command
            rw [hkind]
            rfl
          · by_contra hb
            exact hfree (.inr (.inl (Bool.not_eq_false _ ▸ hb)))

/-- The record of a command carries its message, or none. -/
theorem commandRecord_data (c : DispatchCall) (command : ProducerCommand) :
    (c.commandRecord command).source = none ∧ ((c.commandRecord command).kind = command.kind ∧
          (c.commandRecord command).data = command.data ∧
          (c.commandRecord command).status = command.status ∨
        command.kind = .message ∧ (c.commandRecord command).kind = .initialMetadata ∧
          (c.commandRecord command).data = []) := by
  unfold commandRecord
  split
  next hmessage =>
    split
    · refine ⟨rfl, .inl ⟨hmessage.symm, ?_, rfl⟩⟩
      simp [SentRecord.data, ProducerCommand.data, hmessage]
    · exact ⟨rfl, .inr ⟨hmessage, rfl, rfl⟩⟩
  next hother =>
    refine ⟨rfl, .inl ⟨rfl, ?_, rfl⟩⟩
    simp [SentRecord.data, ProducerCommand.data, hother]

/-- The history with another producer in the same place. -/
theorem Past.swap (h : c.Past) (hp : c.producer = some p) {q : Producer}
    (hq : q.inSend = false) (hbuilding : c.building = none) :
    Past { c with producer := some q } :=
  { h with
    task := fun j hj =>
      { h.task j hj with
        staged := fun hs => absurd (((h.task j hj).staged hs).2.symm.trans hp) nofun }
    building := fun hb => absurd hb (by
      show ¬ c.building.isSome = true
      rw [hbuilding]
      exact Bool.false_ne_true)
    quiet := fun r hr => by
      cases hr
      exact ⟨hq, (h.quiet p hp).2⟩ }

theorem complete_inSend (p : Producer) (accepted : Bool) :
    (p.complete accepted).inSend = false := by
  unfold Producer.complete
  split <;> rfl

theorem fail_inSend (p : Producer) (status : UInt32) : (p.fail status).2.1.inSend = p.inSend := by
  unfold Producer.fail
  split
  · rfl
  · split <;> rfl

theorem Past.commandRefused (h : c.Past) (hp : c.producer = some p) (hb : c.building = none)
    {q : Producer} (hq : q.inSend = false) (command : ProducerCommand) (ret : Status) :
    (c.commandRefused q command ret).Past := by
  unfold DispatchCall.commandRefused
  split
  · have hsend := fail_inSend q rpcStatusInternal
    rw [hq] at hsend
    generalize q.fail rpcStatusInternal = out at hsend ⊢
    obtain ⟨status, q', body⟩ := out
    have hswap := (h.swap hp hsend hb).drop
    cases status
    case ok => exact { hswap with grammar := h.grammar }
    all_goals exact hswap.abort _
  · exact (h.swap hp hq hb).abort _

theorem Past.commandSent (h : c.Past) (hp : c.producer = some p) (hb : c.building = none)
    (q : Producer) (command : ProducerCommand) (kind : RpcRecordKind) (ret : Status) :
    (c.commandSent q command kind ret).Past := by
  have hq := complete_inSend q (ret = .ok ∧ kind = command.kind)
  unfold DispatchCall.commandSent
  dsimp only
  cases ret
  case ok => exact { h.swap hp hq hb with grammar := h.grammar }
  case again => exact h.swap hp hq hb
  all_goals exact h.commandRefused hp hb hq command _

theorem commandSent_terminal (hterminal : c.terminal = true) (q : Producer)
    (command : ProducerCommand) (kind : RpcRecordKind) (ret : Status) :
    (c.commandSent q command kind ret).terminal = true := by
  unfold DispatchCall.commandSent
  dsimp only
  cases ret
  case ok => exact hterminal
  case again => exact hterminal
  all_goals
    dsimp only
    unfold DispatchCall.commandRefused
    rw [if_neg fun hcase => by
      rw [hterminal] at hcase
      exact absurd hcase.2.1 nofun]
    exact abort_terminal _ _

theorem abort_producer (c : DispatchCall) (status : UInt32) :
    (c.abort status).producer = c.producer ∧ (c.abort status).building = c.building := by
  unfold DispatchCall.abort
  split <;> exact ⟨rfl, rfl⟩

/-- A command that was refused leaves an error FINAL in the mailbox, or ends the
call. -/
theorem Ok.commandRefused (h : c.Ok) (hlive : c.terminal = false) (hclean : c.cleanup = false)
    (hready : c.ready = none) (hp : c.producer = some p) (hb : c.building = none)
    (command : ProducerCommand) (ret : Status) : (c.commandRefused p command ret).Ok := by
  refine ⟨h.past.commandRefused hp hb (h.past.quiet p hp).1 command ret, ?_⟩
  have hl := h.live hlive hclean
  unfold DispatchCall.commandRefused
  split
  · have hfail : (p.fail rpcStatusInternal).1 = .ok →
        (p.fail rpcStatusInternal).2.1.kind = some .finalStatus ∧
        (p.fail rpcStatusInternal).2.1.status = rpcStatusInternal ∧
        (p.fail rpcStatusInternal).2.1.finished = true := by
      unfold Producer.fail
      intro hok
      split at hok
      · cases hok
      split at hok
      · split at hok <;> cases hok
      rename_i hstatus hopen
      rw [if_neg hstatus, if_neg hopen]
      exact ⟨rfl, rfl, rfl⟩
    generalize p.fail rpcStatusInternal = out at hfail ⊢
    obtain ⟨status, q, body⟩ := out
    cases status
    case ok =>
      intro _ _
      obtain ⟨hkind, hstatus, hfinished⟩ := hfail rfl
      exact {
        stopped := hl.stopped
        whole := .inl (.inr rfl)
        alone := fun job hjob => nomatch hready.symm.trans hjob
        ready := fun job hjob => nomatch hready.symm.trans hjob
        rejected := fun _ => ⟨hb, q, rfl, hkind, hstatus ▸ internal_ne_ok, hfinished⟩
        dying := fun _ => .inr rfl }
    all_goals
      intro hterminal
      cases hterminal.symm.trans (abort_terminal _ _)
  · intro hterminal
    cases hterminal.symm.trans (abort_terminal _ _)

/-- A producer with a command that was not sent is what it was. -/
theorem complete_unsent (hsend : p.inSend = false) :
    Producer.complete { p with inSend := true } false = p := by
  cases p
  cases hsend
  rfl

/-- The message of a call that waits for its producer. -/
theorem waiting_producer (hready : c.ready = none) (hp : c.producer = some p) :
    c.waiting = p.data := by
  simp [DispatchCall.waiting, mailbox, hready, hp]

variable {command : ProducerCommand}

theorem Live.command_final (h : c.Live) (hp : c.producer = some p)
    (hcommand : p.command = some command) (hfailed : c.producerFailed = true) :
    command.kind = .finalStatus ∧ command.status ≠ rpcStatusOk := by
  obtain ⟨_, q, hq, hkind, hstatus, _⟩ := h.rejected hfailed
  cases hp.symm.trans hq
  unfold Producer.command at hcommand
  rw [hkind] at hcommand
  cases hcommand
  exact ⟨rfl, hstatus⟩

/-- The mailbox is emptied by an accepted command, and by nothing else. -/
theorem Live.commandSent (h : c.Live) (hready : c.ready = none) (hp : c.producer = some p)
    (hsend : p.inSend = false)
    (hcommand : p.command = some command) (next : RpcRecordState)
    (hkind : (c.commandRecord command).kind ≠ .finalStatus) :
    ((c.accept (c.commandRecord command) next).commandSent { p with inSend := true } command
      (c.commandRecord command).kind .ok).Live := by
  obtain ⟨_, hrecord⟩ := commandRecord_data c command
  have hopen : c.producerFailed = false := by
    by_contra hfailed
    have hfinal := (h.command_final hp hcommand (Bool.not_eq_false _ ▸ hfailed)).1
    rcases hrecord with ⟨hsame, _⟩ | ⟨hmessage, _⟩
    · exact hkind (hsame.trans hfinal)
    · exact absurd (hmessage.symm.trans hfinal) (by simp)
  have hcalm : c.failedAt = none := by
    by_contra hfailed
    rcases h.dying hfailed with ⟨job, hjob, _⟩ | hrejected
    · exact absurd (hready.symm.trans hjob) (by simp)
    · cases hopen.symm.trans hrejected
  have hdata : p.data = command.data := by
    unfold Producer.data
    rw [hcommand]
    simp
  exact {
    stopped := h.stopped
    whole := by
      rcases h.whole with (⟨job, hjob, _⟩ | hfailed) | hwhole
      · exact absurd (hready.symm.trans hjob) (by simp)
      · cases hopen.symm.trans hfailed
      · rw [waiting_producer hready hp, hdata] at hwhole
        refine .inr (Eq.trans ?_ hwhole)
        have hwaiting : ((c.accept (c.commandRecord command) next).commandSent
            { p with inSend := true } command (c.commandRecord command).kind .ok).waiting =
            (Producer.complete { p with inSend := true }
              (Status.ok = .ok ∧ (c.commandRecord command).kind = command.kind)).data :=
          waiting_producer hready rfl
        rw [hwaiting]
        show (c.log ++ [c.commandRecord command]).flatMap SentRecord.data ++ _ = _
        rw [flatMap_append, flatMap_singleton, append_assoc]
        refine congrArg (c.messages ++ ·) ?_
        rcases hrecord with ⟨hsame, hsent, _⟩ | ⟨hmessage, hinitial, hsent⟩
        · rw [hsent]
          simp [hsame, Producer.complete, Producer.data, Producer.command]
        have hdiffer : ¬ (c.commandRecord command).kind = command.kind := by
          rw [hmessage, hinitial]
          simp
        rw [hsent, nil_append]
        simp only [hdiffer, and_false, decide_false]
        rw [complete_unsent hsend, hdata]
    alone := fun job hjob => absurd (hready.symm.trans hjob) (by simp)
    ready := fun job hjob => absurd (hready.symm.trans hjob) (by simp)
    rejected := fun hfailed => nomatch hopen.symm.trans hfailed
    dying := fun hfailed => absurd hcalm hfailed }

/-- The record of a command continues what was sent. -/
theorem Live.command_sound (h : c.Live) (hpast : c.Past) (hready : c.ready = none)
    (hp : c.producer = some p)
    (hcommand : p.command = some command) :
    c.messages ++ (c.commandRecord command).data <+: c.offered ++ c.produced := by
  obtain ⟨_, hrecord⟩ := commandRecord_data c command
  rcases h.whole with (⟨job, hjob, _⟩ | hfailed) | hwhole
  · cases hready.symm.trans hjob
  · have hfinal := (h.command_final hp hcommand hfailed).1
    have hnone : (c.commandRecord command).data = [] := by
      rcases hrecord with ⟨_, hsent, _⟩ | ⟨_, _, hsent⟩
      · rw [hsent]
        simp [ProducerCommand.data, hfinal]
      · exact hsent
    rw [hnone, append_nil]
    exact hpast.sound
  · rw [waiting_producer hready hp] at hwhole
    rcases hrecord with ⟨_, hsent, _⟩ | ⟨_, _, hsent⟩
    · rw [hsent, ← hwhole]
      unfold Producer.data
      rw [hcommand]
      simp
    · rw [hsent, append_nil]
      exact hpast.sound

theorem Live.command_fails (h : c.Live) (hready : c.ready = none) (hp : c.producer = some p)
    (hcommand : p.command = some command)
    (hfailed : c.failedAt ≠ none) : ¬ (c.commandRecord command).Succeeds := by
  obtain ⟨_, hrecord⟩ := commandRecord_data c command
  rcases h.dying hfailed with ⟨job, hjob, _⟩ | hrejected
  · cases hready.symm.trans hjob
  obtain ⟨hfinal, hstatus⟩ := h.command_final hp hcommand hrejected
  rintro ⟨hkind, hsucceeds⟩
  rcases hrecord with ⟨_, _, hsame⟩ | ⟨hmessage, _⟩
  · exact hstatus (hsame.symm.trans hsucceeds)
  · cases hmessage.symm.trans hfinal

theorem Past.unbuilt (h : c.Past) (hp : c.producer = some p) (hidle : p.building = false) :
    c.building = none := by
  by_contra hb
  have hbuilding := (h.building (Option.isSome_iff_ne_none.2 hb) p (by simp [mailbox, hp])).1
  cases hidle.symm.trans hbuilding

theorem Ok.producerStep (h : c.Ok) (hlive : c.terminal = false) (hclean : c.cleanup = false)
    (hready : c.ready = none) (hp : c.producer = some p) (busy : Bool) (answer : DispatchAnswer) :
    (c.producerStep p busy answer).2.Ok := by
  have hl := h.live hlive hclean
  unfold DispatchCall.producerStep
  rcases take_spec p busy with htake | htake | ⟨command, hcommand, hidle, _, htake⟩
  · rw [htake]
    exact h
  · rw [htake]
    exact h.past.finish _
  · rw [htake]
    dsimp only
    have hb := h.past.unbuilt hp hidle
    have hquiet := (h.past.quiet p hp).1
    -- once the call has ended only the history counts
    have hended : ∀ {d : DispatchCall} (ret : Status), d.Past → d.terminal = true →
        d.producer = some p → d.building = none →
        (d.commandSent { p with inSend := true } command
          (c.commandRecord command).kind ret).settle.Ok := fun ret hd hterminal hdp hdb =>
      ((hd.commandSent hdp hdb _ command _ ret).ok_of_terminal
        (commandSent_terminal hterminal _ command _ ret)).settle
    rcases send_cases c (c.commandRecord command) answer with
      ⟨ret, hret, hsend | ⟨status, hsend⟩⟩ | ⟨_, next, hnext, hout⟩
    · rw [hsend]
      refine Ok.settle ?_
      unfold DispatchCall.commandSent
      have hfalse : decide (ret = .ok ∧ (c.commandRecord command).kind = command.kind) =
          false := decide_eq_false fun hboth => hret hboth.1
      rw [hfalse, complete_unsent hquiet]
      dsimp only
      cases ret
      case ok => exact absurd rfl hret
      case again =>
        dsimp only
        rw [← hp]
        exact h
      all_goals exact h.commandRefused hlive hclean hready hp hb command _
    · rw [hsend]
      exact hended ret (h.past.abort status) (abort_terminal c status)
        ((abort_producer c status).1.trans hp) ((abort_producer c status).2.trans hb)
    · have hpast := h.past.accept hlive hnext (hl.command_sound h.past hready hp hcommand)
        (fun id hid => nomatch (commandRecord_data c command).1.symm.trans hid)
        (hl.command_fails hready hp hcommand) fun _ hsource =>
          absurd hsource (by
            rw [(commandRecord_data c command).1]
            exact Bool.false_ne_true)
      rcases hout with hsend | ⟨status, hsend⟩
      · rw [hsend]
        by_cases hkind : (c.commandRecord command).kind = .finalStatus
        · exact hended .ok hpast ((accept_terminal h.past hlive hnext).2 hkind) hp hb
        · exact Ok.settle ⟨hpast.commandSent hp hb _ command _ .ok,
            fun _ _ => hl.commandSent hready hp hquiet hcommand next hkind⟩
      · rw [hsend]
        exact hended .ok (hpast.abort status) (abort_terminal _ status)
          ((abort_producer _ status).1.trans hp) ((abort_producer _ status).2.trans hb)

/-- A producer that has no turn leaves the call as it is. -/
theorem producerStep_idle (h : c.Past) (hlive : c.terminal = false)
    (hp : c.producer = some p) {busy : Bool} {answer : DispatchAnswer}
    (hidle : (c.producerStep p busy answer).1 = false) :
    (c.producerStep p busy answer).2 = c := by
  unfold DispatchCall.producerStep at hidle ⊢
  rcases take_spec p busy with htake | htake | ⟨command, hcommand, _, _, htake⟩
  · rw [htake]
  · rw [htake] at hidle
    cases hidle
  · rw [htake] at hidle ⊢
    dsimp only at hidle ⊢
    rw [Bool.or_eq_false_iff, decide_eq_false_iff_not, not_not] at hidle
    obtain ⟨hagain, hopen⟩ := hidle
    rcases send_cases c (c.commandRecord command) answer with
      ⟨ret, _, hsend | ⟨status, hsend⟩⟩ | ⟨_, next, _, hsend | ⟨status, hsend⟩⟩
    · rw [hsend] at hagain ⊢
      cases hagain
      unfold DispatchCall.commandSent
      dsimp only
      have hfalse : decide (Status.again = .ok ∧
          (c.commandRecord command).kind = command.kind) = false := by simp
      rw [hfalse, complete_unsent (h.quiet p hp).1, ← hp]
      exact settle_of_live hlive
    · rw [hsend] at hopen
      rw [settle_terminal, commandSent_terminal (abort_terminal c status)] at hopen
      cases hopen
    · rw [hsend] at hagain
      cases hagain
    · rw [hsend] at hagain
      cases hagain

/-! ## The owner -/

theorem Ok.turn (h : c.Ok) (turn : Bool) : Ok { c with producerTurn := turn } :=
  ⟨{ h.past with grammar := h.past.grammar }, fun hlive hclean =>
    have hl := h.live hlive hclean
    { hl with whole := hl.whole }⟩

theorem submit_idle {answer : Status} (hidle : (c.submit answer).1 = false) :
    (c.submit answer).2 = c := by
  unfold DispatchCall.submit at hidle ⊢
  cases hqueue : c.queue with
  | nil => rfl
  | cons job rest =>
    rw [hqueue] at hidle
    dsimp only at hidle ⊢
    split
    · rfl
    next hopen =>
      rw [if_neg hopen] at hidle
      cases answer <;> first | rfl | cases hidle

/-- The first job becomes a task. -/
theorem Past.submit (h : c.Past) (hlive : c.terminal = false) (hfree : c.submitted = none)
    {rest : List DispatchJob}
    (hqueue : c.queue = job :: rest) :
    Past { c with
      queue := rest
      submitted := some { job with reply := { job.reply with
        headersSent := c.headersSent
        asynchronous := c.asynchronous } } } := by
  obtain ⟨hblank, hworked, hstaged⟩ := h.fresh job (hqueue ▸ mem_cons_self)
  exact { h with
    order := by simpa [upcoming, hfree, hqueue, hworked] using h.order
    below := by simpa [upcoming, hfree, hqueue, hworked] using h.below
    fresh := fun j hj => h.fresh j (hqueue ▸ mem_cons_of_mem _ hj)
    task := fun j hj => by
      cases hj
      exact {
        idle := fun _ => ⟨⟨hblank.bodies, hblank.initial, hblank.trailing, hblank.count,
          hblank.failed⟩, hstaged⟩
        ran := fun hran => nomatch hworked.symm.trans hran
        snapshot := fun hasync => ⟨hasync, hstaged⟩
        staged := fun hs => absurd hs (by simp [hstaged])
        quiet := fun p hp => nomatch hstaged.symm.trans hp
        result := fun hran => absurd hworked hran }
    unproduced := fun hasync _ => h.unproduced hasync fun j hj =>
      absurd (hfree.symm.trans hj) nofun
    building := fun hb p hp => by
      refine h.building hb p (Eq.trans ?_ hp)
      simp [mailbox, hfree, hstaged]
    offers := by
      refine Eq.trans ?_ h.offers
      simp [hfree, DispatchJob.offers, hworked]
    noted := fun res hres hf => by
      rcases h.noted res hres hf with hnoted | ⟨other, hother, _⟩
      · exact .inl hnoted
      · cases hfree.symm.trans hother
    sealed := fun record hrecord hsucceeds hsource =>
      absurd (hlive.symm.trans (h.sealed record hrecord hsucceeds hsource).1) Bool.false_ne_true }

theorem Ok.submit (h : c.Ok) (hclean : c.cleanup = false) (hready : c.ready = none)
    (answer : Status) : (c.submit answer).2.Ok := by
  unfold DispatchCall.submit
  cases hqueue : c.queue with
  | nil => exact h
  | cons job rest =>
    dsimp only
    split
    · exact h
    next hopen =>
      have hfree : c.submitted = none := by
        by_contra hbusy
        exact hopen (.inr (.inr (.inl (Option.isSome_iff_ne_none.2 hbusy))))
      obtain ⟨_, _, hstaged⟩ := h.past.fresh job (hqueue ▸ mem_cons_self)
      cases answer
      case ok =>
        have hlive : c.terminal = false := Bool.eq_false_iff.2 fun ht => hopen (.inl ht)
        refine ⟨h.past.submit hlive hfree hqueue, fun _ _ => ?_⟩
        have hl := h.live hlive hclean
        exact { hl with
          whole := hl.whole.imp_right fun hwhole => by
            refine Eq.trans ?_ hwhole
            simp [messages, DispatchCall.waiting, mailbox, hfree, hstaged]
          alone := fun j hj => nomatch hready.symm.trans hj }
      case again => exact h
      all_goals exact h.past.finish _

/-- The owner has nothing for the executor, or a task starts; `rest` is what
follows if nothing starts. -/
theorem Ok.submitOr (h : c.Ok) (hclean : c.cleanup = false) (hready : c.ready = none)
    (answer : Status) {rest : DispatchCall → DispatchCall} (hrest : (rest c).Ok) :
    Ok (match c.submit answer with
      | (true, c) => { c with producerTurn := true }
      | (false, c) => rest c) := by
  have hsubmit := h.submit hclean hready answer
  have hidle := @submit_idle c answer
  generalize c.submit answer = out at hsubmit hidle ⊢
  obtain ⟨moved, d⟩ := out
  cases moved with
  | true => exact hsubmit.turn _
  | false =>
    obtain rfl : d = c := hidle rfl
    exact hrest

theorem Ok.idleStep (h : c.Ok) (hlive : c.terminal = false) (hclean : c.cleanup = false)
    (hready : c.ready = none) (answer : PumpAnswer) : (c.idleStep answer).Ok := by
  unfold DispatchCall.idleStep
  cases hp : c.producer with
  | none =>
    dsimp only
    rw [if_neg Bool.false_ne_true]
    refine h.submitOr hclean hready answer.submit ?_
    split
    next q hq => cases hp.symm.trans hq
    next => exact h.turn _
  | some p =>
    have hstep := h.producerStep hlive hclean hready hp answer.busy answer.send
    simp only [Option.isSome_some, Bool.true_and]
    cases hfirst : c.producerTurn || c.submitted.isSome || c.queue.isEmpty with
    | true =>
      rw [if_pos rfl]
      have hidle := @producerStep_idle c p h.past hlive hp answer.busy answer.send
      generalize c.producerStep p answer.busy answer.send = out at hstep hidle ⊢
      obtain ⟨moved, d⟩ := out
      cases moved with
      | true => exact hstep.turn _
      | false =>
        obtain rfl : d = c := hidle rfl
        dsimp only
        rw [if_neg Bool.false_ne_true]
        refine h.submitOr hclean hready answer.submit ?_
        split
        next => exact h.turn _
        next hq => cases hp.symm.trans hq
    | false =>
      rw [if_neg Bool.false_ne_true]
      dsimp only
      rw [if_neg Bool.false_ne_true]
      refine h.submitOr hclean hready answer.submit ?_
      split
      next q hq =>
        cases hp.symm.trans hq
        exact hstep.turn _
      next hq => cases hp.symm.trans hq

theorem Ok.pump (h : c.Ok) (hclean : c.cleanup = false) (answer : PumpAnswer) :
    (c.pump answer).Ok := by
  unfold DispatchCall.pump
  split
  · exact h.settle
  next hlive =>
    have hlive := Bool.eq_false_iff.2 hlive
    cases answer.expired with
    | some status => exact h.past.finish status
    | none =>
      dsimp only
      split
      · exact h.past.finish _
      cases hready : c.ready with
      | some job => exact h.replyStep hlive hclean hready answer.send
      | none => exact h.idleStep hlive hclean hready answer

theorem Ok.received (h : c.Ok) (kind : RpcRecordKind) (answer : ReceiveAnswer) :
    (c.received kind answer).Ok := by
  have hended : ∀ status, (c.abort status).Ok := fun status =>
    (h.past.abort status).ok_of_terminal (abort_terminal c status)
  unfold DispatchCall.received
  split
  · exact h
  cases answer.expired with
  | some status => exact hended status
  | none =>
    dsimp only
    split
    · exact hended _
    cases answer.refused with
    | some status => exact hended status
    | none =>
      dsimp only
      have hmore : upcoming { c with
          queue := c.queue ++ [c.job kind], nextId := c.nextId + 1 } =
          c.upcoming ++ [c.nextId] := by
        simp [upcoming, DispatchCall.job]
      refine ⟨{ h.past with order := ?_, below := ?_, fresh := ?_ }, fun hlive hclean => ?_⟩
      · rw [hmore, ← append_assoc]
        refine pairwise_append.2 ⟨h.past.order, pairwise_singleton _ _, ?_⟩
        intro id hid other hother
        rw [mem_singleton.1 hother]
        exact h.past.below id hid
      · rw [hmore, ← append_assoc]
        intro id hid
        rcases Lib.mem_concat.1 hid with hid | rfl
        · exact Nat.lt_succ_of_lt (h.past.below id hid)
        · exact Nat.lt_succ_self _
      · exact Lib.forall_mem_concat.2 ⟨h.past.fresh, ⟨⟨rfl, rfl, rfl, rfl, rfl⟩, rfl, rfl⟩⟩
      · have hl := h.live hlive hclean
        exact { hl with whole := hl.whole }

theorem Ok.receive (h : c.Ok) (kind : RpcRecordKind) (record : RpcRecordHeader)
    (answer : ReceiveAnswer) : (c.receive kind record answer).Ok := by
  unfold DispatchCall.receive
  split
  · exact h
  split
  · exact h.settle
  cases hnext : rpcRecordStateNext c.config.sizeMax c.state .request record with
  | error ret => exact h.past.finish _
  | ok next =>
    refine Ok.settle (Ok.received ⟨?_, fun hlive hclean => ?_⟩ kind answer)
    · obtain ⟨hheaders, hmessages⟩ := stateNext_request hnext
      refine { h.past with grammar := ?_ }
      show Grammar next c.terminal _
      unfold Grammar
      rw [hheaders, hmessages]
      exact h.past.grammar
    · have hl := h.live hlive hclean
      exact { hl with whole := hl.whole }

end DispatchCall

end Trpc
