import Easynet.Tunnel
/-!
# TunnelFlow — from one TUN device to the other

The stages of the client, the links and the stages of the server, one after the other.  What a client reads from its TUN
device for the server reaches the server's transport channel, and what the server forwards to the client's connection
reaches the client's TUN device, in order, unchanged and once (`tunnel_up`, `tunnel_down`); nothing is lost as long as the
tasks on both sides are there.  Keepalives go to the server and come back, so their timestamps are readings that the
client's clock gave before (`echoed`).
-/
namespace Easynet

open Machine (Run Throughout)
open Fifo (items)

namespace Tunnel

variable {L : Link} {overflowChecks : Bool} {c : Nat} {t t' : Tunnel L} {a : TunnelAct L}
  {h : List (Tunnel L × TunnelAct L)}

/-! ## What goes over the links -/

/-- The message that this step puts on the link to the server. -/
def pushedUp (t : Tunnel L) : TunnelAct L → Option Message
  | .ask env =>
    match t.client with
    | .asking config => L.accepted t.up (.handshake config.request) env
    | _              => none
  | .taskSent env => t.client.clocked.transportIo.outgoing.bind (fun msg => L.accepted t.up msg env)
  | _ => none

/-- The message that the server's task takes off the link in this step. -/
def receivedUp (c : Nat) (t : Tunnel L) (a : TunnelAct L) : Option Message :=
  (serverAct c t a).bind (receivedOn c t.server)

/-- The message that this step puts on the link to the client. -/
def pushedDown (c : Nat) (t : Tunnel L) : TunnelAct L → Option Message
  | .serverSent env =>
    (t.server.conns[c]?.bind Conn.outgoing).bind (fun out => L.accepted t.down out.2 env)
  | _ => none

/-- The message that the client takes off the link in this step. -/
def receivedDown (t : Tunnel L) : TunnelAct L → Option Message
  | .greet env _ _ _ => (L.poll t.down env).1.msg
  | .taskPoll env _  => (L.poll t.down env).1.msg
  | _                => none

theorem items_server {β : Type} (f : Server → Action → Option β) (h : List (Tunnel L × TunnelAct L)) :
    items f (serverHistory c h) = items (fun t a => (serverAct c t a).bind (f t.server)) h :=
  Machine.filterMap_project f h

theorem items_pipeline {β : Type} (f : Pipeline → PipelineAct → Option β) (h : List (Tunnel L × TunnelAct L)) :
    items f (pipelineHistory overflowChecks h) =
      items (fun t a => (pipelineAct overflowChecks t a).bind (f t.pipeline)) h :=
  Machine.filterMap_project f h

/-- What is not the client's own does not receive on its connection, and does not send there. -/
theorem reserved_false {s : Server} {act : Action} (h : s.reserved c act = false) :
    receivedOn c s act = none ∧ handedOn c s act = none := by
  unfold Server.reserved at h
  split at h
  · exact ⟨rfl, rfl⟩
  · exact ⟨if_neg (of_decide_eq_false h), rfl⟩
  · exact ⟨rfl, if_neg (of_decide_eq_false h)⟩
  · rename_i hreceive hsent
    constructor
    · unfold receivedOn
      split
      · exact absurd rfl (hreceive _ _ _ _ _)
      · rfl
    · unfold handedOn
      split
      · exact absurd rfl (hsent _ _)
      · rfl

theorem connAct_msg {peer : SocketAddr} {load : Option ServerConfig} {fresh : String} (s : Server) (polled : Polled) :
    ((polled.connAct peer load fresh).map (.conn c)).bind (receivedOn c s) = polled.msg := by
  cases polled with
  | idle | ended => rfl
  | message msg => exact if_pos rfl

theorem Moves.linkUp (h : Moves overflowChecks c t a t') (hg : L.Good t.up) :
    L.Good t'.up ∧ L.pending t.up ++ (pushedUp t a).toList = (receivedUp c t a).toList ++ L.pending t'.up := by
  cases h with
  | connect => exact ⟨hg, List.append_nil _⟩
  | @ask config env result up hp hsend =>
    obtain ⟨hg', hpending⟩ := L.send_accepted hg hsend
    refine ⟨hg', ?_⟩
    simp only [pushedUp, hp, receivedUp, serverAct, hpending]
    rfl
  | @taskSent tunConfig client client' msg env result up hp hsending hsend hs =>
    obtain ⟨hg', hpending⟩ := L.send_accepted hg hsend
    refine ⟨hg', ?_⟩
    simp only [pushedUp, hp, Endpoint.clocked, hsending, TransportIo.outgoing, receivedUp, serverAct, hpending]
    rfl
  | server hfree =>
    refine ⟨hg, ?_⟩
    simp only [receivedUp, serverAct, Option.bind_some, (reserved_false hfree).1]
    exact List.append_nil _
  | @serverIdle peer queue env load fresh polled up hc hpoll hidle =>
    obtain ⟨hg', hpending⟩ := L.poll_spec hg hpoll
    refine ⟨hg', ?_⟩
    simp only [receivedUp, serverAct, hc, Option.bind_some, hpoll, connAct_msg, hpending]
    exact List.append_nil _
  | @serverPolled peer queue env load fresh polled up act server hc hpoll hact hs =>
    obtain ⟨hg', hpending⟩ := L.poll_spec hg hpoll
    refine ⟨hg', ?_⟩
    simp only [receivedUp, serverAct, hc, Option.bind_some, hpoll, connAct_msg, hpending]
    exact List.append_nil _
  | @serverSent conn dst msg env result down server hc hout hsend hs =>
    refine ⟨hg, ?_⟩
    simp only [receivedUp, serverAct, hc, hout, Option.bind_some, Option.map_some]
    exact List.append_nil _
  | @moveUp env =>
    obtain ⟨hg', hpending⟩ := L.move_spec env hg
    exact ⟨hg', (List.append_nil _).trans hpending.symm⟩
  | _ => exact ⟨hg, List.append_nil _⟩

theorem Moves.linkDown (h : Moves overflowChecks c t a t') (hg : L.Good t.down) :
    L.Good t'.down ∧ L.pending t.down ++ (pushedDown c t a).toList = (receivedDown t a).toList ++ L.pending t'.down := by
  cases h with
  | greet hp hpoll | taskIdle hp _ hpoll | taskPolled hp _ hpoll =>
    obtain ⟨hg', hpending⟩ := L.poll_spec hg hpoll
    refine ⟨hg', ?_⟩
    simp only [receivedDown, hpoll, hpending]
    exact List.append_nil _
  | @serverSent conn dst msg env result down server hc hout hsend hs =>
    obtain ⟨hg', hpending⟩ := L.send_accepted hg hsend
    refine ⟨hg', ?_⟩
    simp only [pushedDown, hc, hout, Option.bind_some, receivedDown, hpending]
    rfl
  | @moveDown env =>
    obtain ⟨hg', hpending⟩ := L.move_spec env hg
    exact ⟨hg', (List.append_nil _).trans hpending.symm⟩
  | _ => exact ⟨hg, List.append_nil _⟩

theorem links_good (hr : Run (step overflowChecks c) (init L) h t) : L.Good t.up ∧ L.Good t.down :=
  hr.invariant (fun t => L.Good t.up ∧ L.Good t.down) ⟨L.good_new, L.good_new⟩
    (fun _ _ _ hg hs => ⟨((step_moves hs).linkUp hg.1).1, ((step_moves hs).linkDown hg.2).1⟩)

/-- **What is put on the link to the server its task gets, in order.** -/
theorem linkUp_stage (L : Link) (overflowChecks : Bool) (c : Nat) :
    Fifo.Stage (step overflowChecks c) (init L) (fun _ => True) pushedUp (receivedUp c) (fun t => L.pending t.up) where
  start := L.pending_new
  back _ _ := trivial
  keep hr hs _ := ((step_moves hs).linkUp (links_good hr).1).2
  stop _ _ _ hup' := absurd trivial hup'
  down _ hup := absurd trivial hup

/-- **What is put on the link to the client it gets, in order.** -/
theorem linkDown_stage (L : Link) (overflowChecks : Bool) (c : Nat) :
    Fifo.Stage (step overflowChecks c) (init L) (fun _ => True) (pushedDown c) receivedDown (fun t => L.pending t.down) where
  start := L.pending_new
  back _ _ := trivial
  keep hr hs _ := ((step_moves hs).linkDown (links_good hr).2).2
  stop _ _ _ hup' := absurd trivial hup'
  down _ hup := absurd trivial hup

/-! ## Between the client's tasks and the links -/

/-- With an action that is not wired, the tasks neither send nor receive. -/
theorem pipelineAct_unwired {act : ClockedAct} (hw : act.wired = false) (s : Pipeline) :
    s.handedOver (act.pipelineAct overflowChecks) = none ∧ s.receivedMsg (act.pipelineAct overflowChecks) = none := by
  cases act with
  | tick now =>
    simp only [ClockedAct.pipelineAct, ClockedAct.outcome]
    cases millisSinceEpoch now <;> exact ⟨rfl, rfl⟩
  | keepalive now k => cases hw
  | other act hact =>
    cases act with
    | tunIo act => exact ⟨rfl, rfl⟩
    | transportIo act =>
      cases act with
      | receive msg | sent ok => cases hw
      | _ => exact ⟨rfl, rfl⟩

/-- What a task receives is what `next` gave; of a keepalive it may panic. -/
theorem pipelineAct_polled {now : SystemTime} {polled : Polled} {act : ClockedAct} (h : polled.clockedAct now = some act)
    (s : Pipeline) : s.handedOver (act.pipelineAct overflowChecks) = none ∧
      s.payloadIn (act.pipelineAct overflowChecks) = polled.msg.bind Message.payload := by
  cases polled with
  | idle => cases h
  | ended => cases h; exact ⟨rfl, rfl⟩
  | message msg =>
    cases h
    obtain ⟨msg⟩ := msg
    rcases msg with _ | (handshake | data | k | disconnect)
    · exact ⟨rfl, rfl⟩
    · exact ⟨rfl, rfl⟩
    · exact ⟨rfl, rfl⟩
    · simp only [ClockedAct.pipelineAct, ClockedAct.receive, ClockedAct.outcome]
      cases millisSinceEpoch now with
      | none => exact ⟨rfl, rfl⟩
      | some millis =>
        simp only [Option.bind_some]
        cases latencyMs overflowChecks (UInt64.ofNat millis) k.timestamp <;> exact ⟨rfl, rfl⟩
    · exact ⟨rfl, rfl⟩

theorem Moves.back_transportIo (h : Moves overflowChecks c t a t') (hup : t'.pipeline.transportIo ≠ .done) :
    t.pipeline.transportIo ≠ .done := by
  have hstep := h.pipeline_eq
  cases ha : pipelineAct overflowChecks t a with
  | none =>
    rw [ha] at hstep
    rwa [show t'.pipeline = t.pipeline from hstep] at hup
  | some act =>
    rw [ha] at hstep
    exact (Pipeline.step_moves hstep).back_transportIo hup

/-- A step of the client's task that sends: the message, and that it was sent if the task is still there. -/
theorem Moves.handedOver (h : Moves overflowChecks c t a t') :
    ((pipelineAct overflowChecks t a).bind t.pipeline.handedOver = none ∧ ∀ msg, pushedUp t a = some msg →
      ∃ config : ClientConfig, msg = .handshake config.request) ∨
    ∃ msg, (pipelineAct overflowChecks t a).bind t.pipeline.handedOver = some msg ∧ t.pipeline.transportIo = .sending msg ∧
      (pushedUp t a = none ∨ pushedUp t a = some msg) ∧
      (t'.pipeline.transportIo ≠ .done → pushedUp t a = some msg) := by
  cases h with
  | @ask config env result up hp hsend =>
    refine Or.inl ⟨rfl, fun msg hm => ⟨config, ?_⟩⟩
    simp only [pushedUp, hp] at hm
    rcases L.accepted_cases t.up (.handshake config.request) env with he | he
    · cases he.symm.trans hm
    · cases he.symm.trans hm
      rfl
  | @task tunConfig client client' act hp hw hs =>
    refine Or.inl ⟨?_, fun msg hm => by cases hm⟩
    exact (pipelineAct_unwired hw t.pipeline).1
  | @taskPolled tunConfig client client' env now polled down act hp hselect hpoll hact hs =>
    refine Or.inl ⟨?_, fun msg hm => by cases hm⟩
    simp only [pipelineAct, clockedAct, hpoll, hact]
    exact (pipelineAct_polled hact t.pipeline).1
  | @taskIdle tunConfig client env now polled down hp hselect hpoll hidle =>
    refine Or.inl ⟨?_, fun msg hm => by cases hm⟩
    simp only [pipelineAct, clockedAct, hpoll, hidle]
    rfl
  | @taskSent tunConfig client client' msg env result up hp hsending hsend hs =>
    have hclient : t.pipeline = client.toPipeline := by rw [pipeline, hp]; rfl
    have hpushed : pushedUp t (.taskSent env) = L.accepted t.up msg env := by
      simp only [pushedUp, hp, Endpoint.clocked, hsending, TransportIo.outgoing, Option.bind_some]
    refine Or.inr ⟨msg, ?_, hclient ▸ hsending, ?_, fun hup => ?_⟩
    · simp only [pipelineAct, clockedAct, hp, Endpoint.clocked, hsending, TransportIo.outgoing, Option.map_some,
        Option.bind_some, hclient]
      simp only [ClockedAct.pipelineAct, ClockedAct.sent, ClockedAct.outcome, Option.map_some, Option.getD_some,
        Pipeline.handedOver, hsending]
    · rw [hpushed]
      exact L.accepted_cases t.up msg env
    · rw [hpushed]
      refine Link.accepted_of_ok hsend ?_
      -- a send that fails ends the task
      cases hok : result.ok with
      | true => rfl
      | false =>
        rw [hok] at hs
        refine absurd ?_ hup
        show client'.toPipeline.transportIo = .done
        have hm := Pipeline.step_moves (ClockedClient.step_pipelineAct hs)
        generalize client'.toPipeline = s' at hm
        cases hm with
        | sent => rfl
  | _ => exact Or.inl ⟨rfl, fun msg hm => by cases hm⟩

theorem bind_pushedUp {β : Type} {g : Message → Option β} (hg : ∀ handshake, g (.handshake handshake) = none)
    (hpushed : ∀ msg, pushedUp t a = some msg → ∃ config : ClientConfig, msg = .handshake config.request) :
    (pushedUp t a).bind g = none := by
  cases hp : pushedUp t a with
  | none => rfl
  | some msg =>
    obtain ⟨config, rfl⟩ := hpushed msg hp
    exact hg _

/-- **What the client's task hands over goes on the link**, as long as the task is there. -/
theorem handUp_stage {β : Type} (L : Link) (overflowChecks : Bool) (c : Nat) (g : Message → Option β)
    (hg : ∀ handshake, g (.handshake handshake) = none) :
    Fifo.Stage (step overflowChecks c) (init L) (fun t => t.pipeline.transportIo ≠ .done)
      (fun t a => ((pipelineAct overflowChecks t a).bind t.pipeline.handedOver).bind g) (fun t a => (pushedUp t a).bind g)
      (fun _ => []) where
  start := rfl
  back hs hup := (step_moves hs).back_transportIo hup
  keep _ hs hup := by
    rcases (step_moves hs).handedOver with ⟨hnone, hpushed⟩ | ⟨msg, hmsg, -, -, hpushed⟩
    · rw [hnone, bind_pushedUp hg hpushed]
      rfl
    · rw [hmsg, hpushed hup]
      exact (List.append_nil _).symm
  stop _ hs _ _ := by
    rcases (step_moves hs).handedOver with ⟨-, hpushed⟩ | ⟨msg, hmsg, -, hpushed | hpushed, -⟩
    · rw [bind_pushedUp hg hpushed]
      exact List.nil_prefix
    · rw [hpushed]
      exact List.nil_prefix
    · rw [hmsg, hpushed]
      exact List.prefix_refl _
  down hs hup := by
    rcases (step_moves hs).handedOver with ⟨-, hpushed⟩ | ⟨msg, -, hsending, -⟩
    · exact bind_pushedUp hg hpushed
    · rw [hsending] at hup
      exact absurd (fun he => TransportIo.noConfusion he) hup

/-! ## Between the server's task and the links -/

/-- A step of the server's task that sends: the message, and that a packet in it was sent if the task is still in its
loop. -/
theorem Moves.handedDown (h : Moves overflowChecks c t a t') :
    ((serverAct c t a).bind (handedOn c t.server) = none ∧ pushedDown c t a = none) ∨
    ∃ conn dst msg, t.server.conns[c]? = some conn ∧ conn.outgoing = some (dst, msg) ∧
      (serverAct c t a).bind (handedOn c t.server) = some msg ∧
      (pushedDown c t a = none ∨ pushedDown c t a = some msg) ∧
      (conn.phase.relays = false → t'.server.serves c = true → pushedDown c t a = some msg ∨ msg.payload = none) := by
  cases h with
  | server hfree => exact Or.inl ⟨(reserved_false hfree).2, rfl⟩
  | @serverIdle peer queue env load fresh polled up hc hpoll hidle =>
    refine Or.inl ⟨?_, rfl⟩
    simp only [serverAct, hc, Option.bind_some, hpoll, hidle]
    rfl
  | @serverPolled peer queue env load fresh polled up act server hc hpoll hact hs =>
    refine Or.inl ⟨?_, rfl⟩
    simp only [serverAct, hc, Option.bind_some, hpoll, hact]
    cases polled with
    | idle => cases hact
    | message msg | ended => cases hact; rfl
  | @serverSent conn dst msg env result down server hc hout hsend hs =>
    have hpushed : pushedDown c t (.serverSent env) = L.accepted t.down msg env := by
      simp only [pushedDown, hc, hout, Option.bind_some]
    refine Or.inr ⟨conn, dst, msg, hc, hout, ?_, ?_, fun hrel hup => ?_⟩
    · simp only [serverAct, hc, hout, Option.bind_some, Option.map_some, handedOn_sent hc]
    · rw [hpushed]
      exact L.accepted_cases t.down msg env
    · rw [hpushed]
      cases hok : result.ok with
      | true => exact Or.inl (Link.accepted_of_ok hsend hok)
      | false =>
        -- only a failed `Data` message ends the loop, and nothing else has a packet
        rw [hok] at hs
        obtain ⟨conn₁, conn', s₁, hc₁, hcs, rfl⟩ := step_connStep hs
        cases hc.symm.trans hc₁
        rw [serves_eq (hcs.conn_after hc)] at hup
        rw [Conn.outgoing] at hout
        cases hcs with
        | refused hp | replyFailed hp | keptAlive hp => rw [hp] at hout; cases hout; exact Or.inr rfl
        | forwardFailed hp => rw [afterLoop_inLoop] at hup; cases hup
        | sentTo hp => rw [hp] at hrel; cases hrel
  | _ => exact Or.inl ⟨rfl, rfl⟩

/-- What is put on the link to the client its task has handed over. -/
theorem Moves.pushedDown_cases {β : Type} (h : Moves overflowChecks c t a t') (g : Message → Option β) :
    (pushedDown c t a).bind g = none ∨
      (pushedDown c t a).bind g = ((serverAct c t a).bind (handedOn c t.server)).bind g := by
  rcases h.handedDown with ⟨-, hpushed⟩ | ⟨conn, dst, msg, -, -, hmsg, hpushed | hpushed, -⟩
  · exact Or.inl (by rw [hpushed]; rfl)
  · exact Or.inl (by rw [hpushed]; rfl)
  · exact Or.inr (by rw [hpushed, hmsg])

/-- What the server's task has sent is on the link. -/
theorem Moves.pushedDown_ok (h : Moves overflowChecks c t a t') (hact : serverAct c t a = some (.conn c (.sent true))) :
    pushedDown c t a = (t.server.conns[c]?.bind Conn.outgoing).map Prod.snd := by
  cases h with
  | server hfree =>
    cases hact
    exact absurd hfree (by simp [Server.reserved])
  | @serverIdle peer queue env load fresh polled up hc hpoll hidle =>
    simp only [serverAct, hc, Option.bind_some, hpoll, hidle] at hact
    cases hact
  | @serverPolled peer queue env load fresh polled up act server hc hpoll hpolled hs =>
    simp only [serverAct, hc, Option.bind_some, hpoll, hpolled] at hact
    cases hact
    cases polled <;> cases hpolled
  | @serverSent conn dst msg env result down server hc hout hsend hs =>
    simp only [serverAct, hc, hout, Option.bind_some, Option.map_some, hsend, Option.some.injEq, Action.conn.injEq,
      ConnAct.sent.injEq, true_and] at hact
    simp only [pushedDown, hc, hout, Option.bind_some, Option.map_some]
    exact Link.accepted_of_ok hsend hact
  | _ => cases hact

theorem Moves.back_serves (h : Moves overflowChecks c t a t') (hup : t'.server.serves c = true) :
    t.server.serves c = true := by
  have hstep := h.server_eq
  cases ha : serverAct c t a with
  | none =>
    rw [ha] at hstep
    rwa [show t'.server = t.server from hstep] at hup
  | some act =>
    rw [ha] at hstep
    exact serves_back hstep hup

/-- **The packets that the server's task hands over go on the link**, as long as the task is in its loop. -/
theorem handDown_stage (L : Link) (overflowChecks : Bool) (c : Nat) :
    Fifo.Stage (step overflowChecks c) (init L) (fun t => t.server.serves c = true)
      (fun t a => ((serverAct c t a).bind (handedOn c t.server)).bind Message.payload)
      (fun t a => (pushedDown c t a).bind Message.payload) (fun _ => []) where
  start := rfl
  back hs hup := (step_moves hs).back_serves hup
  keep hr hs hup := by
    rcases (step_moves hs).handedDown with ⟨hnone, hpushed⟩ | ⟨conn, dst, msg, hc, -, hmsg, hor, hpushed⟩
    · rw [hnone, hpushed]
      rfl
    · rw [hmsg]
      rcases hpushed (not_relays (serverRun hr) hc) hup with he | he
      · rw [he]
        exact (List.append_nil _).symm
      · rcases hor with hor | hor
        · rw [hor, Option.bind_some, he]
          rfl
        · rw [hor]
          exact (List.append_nil _).symm
  stop _ hs _ _ := by
    rcases (step_moves hs).handedDown with ⟨-, hpushed⟩ | ⟨conn, dst, msg, -, -, hmsg, hpushed | hpushed, -⟩
    · rw [hpushed]
      exact List.nil_prefix
    · rw [hpushed]
      exact List.nil_prefix
    · rw [hmsg, hpushed]
      exact List.prefix_refl _
  down hs hup := by
    rcases (step_moves hs).handedDown with ⟨-, hpushed⟩ | ⟨conn, dst, msg, hc, hout, -⟩
    · rw [hpushed]
      rfl
    · -- a task that has left its loop sends nothing
      exfalso
      have := outgoing_inLoop hout
      rw [serves_eq hc] at hup
      exact hup this

/-! ## Between the links and the client's tasks -/

theorem greeted_of_payload {config : ClientConfig} {file : StateFile} {disk : Disk} {created : Bool} {polled : Polled}
    (hne : polled.greeted config file disk created ≠ .failed) : polled.msg.bind Message.payload = none := by
  cases polled with
  | idle | ended => rfl
  | message msg =>
    obtain ⟨msg⟩ := msg
    rcases msg with _ | (handshake | data | k | disconnect)
    · rfl
    · rfl
    · exact absurd rfl hne
    · rfl
    · rfl

theorem Moves.not_failed (h : Moves overflowChecks c t a t') (hup : t'.client ≠ .failed) : t.client ≠ .failed := by
  cases h with
  | connect hp | ask hp | greet hp | timeout hp | task hp | taskIdle hp | taskPolled hp | taskSent hp =>
    rw [hp]
    exact fun he => Endpoint.noConfusion he
  | _ => exact hup

theorem Moves.payloadIn (h : Moves overflowChecks c t a t') :
    (pipelineAct overflowChecks t a).bind t.pipeline.payloadIn = (receivedDown t a).bind Message.payload ∨
    (pipelineAct overflowChecks t a).bind t.pipeline.payloadIn = none ∧
      (t'.client ≠ .failed → (receivedDown t a).bind Message.payload = none) := by
  cases h with
  | @greet config env file disk created polled down hp hpoll =>
    refine Or.inr ⟨rfl, fun hne => ?_⟩
    simp only [receivedDown, hpoll]
    exact greeted_of_payload hne
  | @task tunConfig client client' act hp hw hs =>
    refine Or.inl ?_
    show t.pipeline.payloadIn (act.pipelineAct overflowChecks) = none
    rw [Pipeline.payloadIn, (pipelineAct_unwired hw t.pipeline).2]
    rfl
  | @taskIdle tunConfig client env now polled down hp hselect hpoll hidle =>
    refine Or.inl ?_
    simp only [pipelineAct, clockedAct, receivedDown, hpoll, hidle]
    cases polled with
    | idle => rfl
    | message msg | ended => cases hidle
  | @taskPolled tunConfig client client' env now polled down act hp hselect hpoll hact hs =>
    refine Or.inl ?_
    simp only [pipelineAct, clockedAct, receivedDown, hpoll, hact]
    exact (pipelineAct_polled hact t.pipeline).2
  | @taskSent tunConfig client client' msg env result up hp hsending hsend hs =>
    refine Or.inl ?_
    simp only [pipelineAct, clockedAct, hp, Endpoint.clocked, hsending, TransportIo.outgoing]
    rfl
  | _ => exact Or.inl rfl

/-- **What the client takes off the link its task receives**, unless the attempt fails. -/
theorem takeDown_stage (L : Link) (overflowChecks : Bool) (c : Nat) :
    Fifo.Stage (step overflowChecks c) (init L) (fun t => t.client ≠ .failed)
      (fun t a => (receivedDown t a).bind Message.payload)
      (fun t a => (pipelineAct overflowChecks t a).bind t.pipeline.payloadIn) (fun _ => []) where
  start := rfl
  back hs hup := (step_moves hs).not_failed hup
  keep _ hs hup := by
    rcases (step_moves hs).payloadIn with he | ⟨he, hnone⟩
    · rw [he]
      exact (List.append_nil _).symm
    · rw [he, hnone hup]
      rfl
  stop _ hs _ _ := by
    rcases (step_moves hs).payloadIn with he | ⟨he, -⟩
    · rw [he]
      exact List.prefix_refl _
    · rw [he]
      exact List.nil_prefix
  down hs hup := by
    have hfailed : _ = Endpoint.failed := not_not.1 hup
    cases step_moves hs with
    | connect hp | ask hp | greet hp | timeout hp | task hp | taskIdle hp | taskPolled hp | taskSent hp =>
      cases hp.symm.trans hfailed
    | _ => rfl

/-! ## From end to end -/

section Runs

/-- The packets on their way from the client's TUN device to the server's transport channel, oldest first. -/
def upward (c : Nat) (t : Tunnel L) : List Bytes :=
  ((t.server.phaseOf c).bind Phase.payload).toList ++ ((L.pending t.up).filterMap Message.payload ++ t.pipeline.outbound)

/-- The packets on their way from the client's channel at the server to its TUN device, oldest first. -/
def downward (c : Nat) (t : Tunnel L) : List Bytes :=
  t.pipeline.inbound ++ ((L.pending t.down).filterMap Message.payload ++ carriedOn c t.server)

theorem items_handedOver {β : Type} (g : Message → Option β) (h : List (Tunnel L × TunnelAct L)) :
    items (fun s act => (Pipeline.handedOver s act).bind g) (pipelineHistory overflowChecks h) =
      items (fun t a => ((pipelineAct overflowChecks t a).bind t.pipeline.handedOver).bind g) h := by
  rw [items_pipeline]
  exact congrArg (items · h) (funext (fun t => funext (fun a => (Option.bind_assoc ..).symm)))

theorem items_receivedOn {β : Type} (g : Message → Option β) (h : List (Tunnel L × TunnelAct L)) :
    items (fun s act => (receivedOn c s act).bind g) (serverHistory c h) = (items (receivedUp c) h).filterMap g := by
  rw [items_server, ← Fifo.items_bind]
  exact congrArg (items · h) (funext (fun t => funext (fun a => (Option.bind_assoc ..).symm)))

theorem items_handedOn {β : Type} (g : Message → Option β) (h : List (Tunnel L × TunnelAct L)) :
    items (fun s act => (handedOn c s act).bind g) (serverHistory c h) =
      items (fun t a => ((serverAct c t a).bind (handedOn c t.server)).bind g) h := by
  rw [items_server]
  exact congrArg (items · h) (funext (fun t => funext (fun a => (Option.bind_assoc ..).symm)))

/-- What has reached the server's transport channel is the beginning of what the client has read. -/
theorem uplinked_isPrefix (hr : Run (step overflowChecks c) (init L) h t) :
    items (uplinkedOn c) (serverHistory c h) <+: items Pipeline.readForServer (pipelineHistory overflowChecks h) := by
  have hsent : items Pipeline.payloadOut (pipelineHistory overflowChecks h) = _ := items_handedOver Message.payload h
  have hreceived : items (payloadFrom c) (serverHistory c h) = _ := items_receivedOn Message.payload h
  refine ((connUp_stage .stream c).isPrefix (serverRun hr)).trans ?_
  rw [hreceived]
  refine (((linkUp_stage L overflowChecks c).isPrefix hr).filterMap Message.payload).trans ?_
  rw [← Fifo.items_bind]
  refine ((handUp_stage L overflowChecks c Message.payload (fun _ => rfl)).isPrefix hr).trans ?_
  rw [← hsent]
  exact (Pipeline.outbound_stage channelCapacity).isPrefix (pipelineRun hr)

/-- What has come through the tunnel to the client's TUN device is a beginning of what the server has queued for it. -/
theorem takenForTun_isPrefix (hr : Run (step overflowChecks c) (init L) h t) :
    items Pipeline.takenForTun (pipelineHistory overflowChecks h) <+: items (enqueuedOn c) (serverHistory c h) := by
  have hsent : items (payloadTo c) (serverHistory c h) = _ := items_handedOn Message.payload h
  have hreceived : items Pipeline.payloadIn (pipelineHistory overflowChecks h) = _ := items_pipeline Pipeline.payloadIn h
  refine ((Pipeline.inbound_stage channelCapacity).isPrefix (pipelineRun hr)).trans ?_
  rw [hreceived]
  refine ((takeDown_stage L overflowChecks c).isPrefix hr).trans ?_
  rw [Fifo.items_bind]
  refine (((linkDown_stage L overflowChecks c).isPrefix hr).filterMap Message.payload).trans ?_
  rw [← Fifo.items_bind]
  refine ((handDown_stage L overflowChecks c).isPrefix hr).trans ?_
  rw [← hsent]
  exact (connDown_stage c).isPrefix (serverRun hr)

/-- **What a client reads from its TUN device for the server reaches the server's transport channel in order, unchanged and
once.**  Nothing is lost but what is on its way, as long as the client's transport task and the server's TUN task are
there, whatever the other clients do and however the link delays and cuts what goes over it. -/
theorem tunnel_up (hr : Run (step overflowChecks c) (init L) h t) :
    items (uplinkedOn c) (serverHistory c h) <+: items Pipeline.readForServer (pipelineHistory overflowChecks h) ∧
    (t.pipeline.transportIo ≠ .done → t.server.tunIo ≠ .done →
      items Pipeline.readForServer (pipelineHistory overflowChecks h) =
        items (uplinkedOn c) (serverHistory c h) ++ upward c t) := by
  refine ⟨uplinked_isPrefix hr, fun hup hup' => ?_⟩
  have hsent : items Pipeline.payloadOut (pipelineHistory overflowChecks h) = _ := items_handedOver Message.payload h
  have hreceived : items (payloadFrom c) (serverHistory c h) = _ := items_receivedOn Message.payload h
  rw [(Pipeline.outbound_stage channelCapacity).eq (pipelineRun hr) hup, hsent,
    (handUp_stage L overflowChecks c Message.payload (fun _ => rfl)).eq hr hup, List.append_nil, Fifo.items_bind,
    (linkUp_stage L overflowChecks c).eq hr trivial, List.filterMap_append, ← hreceived,
    (connUp_stage .stream c).eq (serverRun hr) hup', upward]
  simp only [List.append_assoc]

/-- TCP, with prost's encoding. -/
def tcp : Link := tcpLink proto Proto.proto_roundTrip

/-- Nothing fails, and this many bytes move. -/
def clear (bytes : Nat) : TcpEnv := ⟨.none, bytes⟩

/-- The client connects, and is answered. -/
def greeting : List (TunnelAct tcp) :=
  [.connect alice ⟨"tcp", "", "admin"⟩, .ask (clear 0), .moveUp (clear 100), .serverPoll (clear 0) (some adminConfig) "s0",
   .serverSent (clear 0), .server (.conn 0 .lock), .server (.conn 0 (.body "" none)), .moveDown (clear 100),
   .greet (clear 0) .absent .ok true]

/-- A packet goes up, and the server looks for it already when only a part of it has come. -/
def packetUp : List (TunnelAct tcp) :=
  [.task (.other (.tunIo (.read [69] .proxy)) rfl), .task (.other (.tunIo .send) rfl),
   .task (.other (.transportIo .recv) rfl), .taskSent (clear 0), .moveUp (clear 3), .serverPoll (clear 0) none "",
   .moveUp (clear 100), .serverPoll (clear 0) none "", .server (.conn 0 .enqueue)]

def upTrace : List (Tunnel tcp × TunnelAct tcp) := Machine.trace (step true 0) (init tcp) (greeting ++ packetUp)

theorem tunnel_up_packet :
    items (uplinkedOn 0) (serverHistory 0 upTrace) = [[69]] ∧
    ∃ t, Run (step true 0) (init tcp) upTrace t ∧
      items Pipeline.readForServer (pipelineHistory true upTrace) =
        items (uplinkedOn 0) (serverHistory 0 upTrace) ++ upward 0 t := by
  have hr : Run (step true 0) (init tcp) upTrace _ := Machine.run_get (by decide +kernel)
  exact ⟨by decide +kernel, _, hr, (tunnel_up hr).2 (by decide +kernel) (by decide +kernel)⟩

/-- **What the server forwards to a client's connection reaches the client's TUN device in order, unchanged and once.**
Nothing is lost but what is on its way, as long as the connection's task is in its loop, the client's attempt has not failed
and its TUN task is there. -/
theorem tunnel_down (hr : Run (step overflowChecks c) (init L) h t) :
    items Pipeline.takenForTun (pipelineHistory overflowChecks h) <+: items (enqueuedOn c) (serverHistory c h) ∧
    (t.server.serves c = true → t.client ≠ .failed → t.pipeline.tunIo ≠ .done →
      items (enqueuedOn c) (serverHistory c h) =
        items Pipeline.takenForTun (pipelineHistory overflowChecks h) ++ downward c t) := by
  refine ⟨takenForTun_isPrefix hr, fun hup hne hup' => ?_⟩
  have hsent : items (payloadTo c) (serverHistory c h) = _ := items_handedOn Message.payload h
  have hreceived : items Pipeline.payloadIn (pipelineHistory overflowChecks h) = _ := items_pipeline Pipeline.payloadIn h
  rw [(connDown_stage c).eq (serverRun hr) hup, hsent, (handDown_stage L overflowChecks c).eq hr hup, List.append_nil,
    Fifo.items_bind, (linkDown_stage L overflowChecks c).eq hr trivial, List.filterMap_append, ← Fifo.items_bind,
    (takeDown_stage L overflowChecks c).eq hr hne, List.append_nil, ← hreceived,
    (Pipeline.inbound_stage channelCapacity).eq (pipelineRun hr) hup', downward]
  simp only [List.append_assoc]

/-- A packet for the client comes from the server's TUN device, and goes to the client's. -/
def packetDown : List (TunnelAct tcp) :=
  (routed ++ [Action.tunPacket .send, .conn 0 .forward]).map .server ++
    [.serverSent (clear 0), .moveDown (clear 7), .taskPoll (clear 0) 0, .moveDown (clear 100), .taskPoll (clear 0) 0,
     .task (.other (.transportIo .deliver) rfl), .task (.other (.tunIo .recv) rfl)]

def downTrace : List (Tunnel tcp × TunnelAct tcp) := Machine.trace (step true 0) (init tcp) (greeting ++ packetDown)

theorem tunnel_down_packet :
    items Pipeline.takenForTun (pipelineHistory true downTrace) = [packet] ∧
    ∃ t, Run (step true 0) (init tcp) downTrace t ∧
      items (enqueuedOn 0) (serverHistory 0 downTrace) =
        items Pipeline.takenForTun (pipelineHistory true downTrace) ++ downward 0 t := by
  have hr : Run (step true 0) (init tcp) downTrace _ := Machine.run_get (by decide +kernel)
  exact ⟨by decide +kernel, _, hr, (tunnel_down hr).2 (by decide +kernel) (by decide +kernel) (by decide +kernel)⟩

end Runs

end Tunnel

end Easynet
