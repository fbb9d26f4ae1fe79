import ContainerFleet.Alert.Interleaving
import ContainerFleet.Proofs.Alert.Run
import ContainerFleet.Proofs.Alert.Scan
import Mathlib.Data.List.Perm.Basic

/-!
# Every alert is recorded and announced once

However the ends of the deliveries fall between the scans and whatever becomes of them,
a scan puts its alerts in front of the history and starts one delivery for each, if alerts
are announced at all.  `Desk.Accounts` says so of all the scans that were made; every
move keeps it, since the end of a delivery touches only the deliveries.

What the receiver answers reaches no scan either: where the daemons know nothing of the
receiver, two runs with the same times of scans make the same scans, whatever their
receivers do and whenever their deliveries end.
-/

namespace ContainerFleet
namespace Alert

open Daemon

variable {σ : Type} (peers : Peers σ)

/-! ## The history -/

theorem take_append_take {α : Type} (count : Nat) (first second : List α) :
    (first ++ second.take count).take count = (first ++ second).take count := by
  rw [List.take_append, List.take_append, List.take_take]
  congr 2
  omega

theorem History.capacity_foldl_add (history : History) (raised : List Alert) :
    (raised.foldl History.add history).capacity = history.capacity := by
  induction raised generalizing history with
  | nil => rfl
  | cons alert later inductionHypothesis => exact inductionHypothesis (history.add alert)

/-- Alerts that are added one after another come before the others, as far as there is
room. -/
theorem History.alerts_foldl_add (history : History) (raised : List Alert) :
    (raised.foldl History.add history).alerts =
      (raised.reverse ++ history.alerts).take history.capacity := by
  induction raised generalizing history with
  | nil => exact (List.take_of_length_le history.fits).symm
  | cons alert later inductionHypothesis =>
    rw [List.foldl_cons, inductionHypothesis, List.reverse_cons, List.append_assoc,
      List.singleton_append]
    exact take_append_take history.capacity later.reverse (alert :: history.alerts)

namespace Monitor

theorem unacknowledged_of_number {now : Int} {issued : Nat} {notices : List Notice} {alert : Alert}
    (member : alert ∈ number now issued notices) : alert.acknowledged = false := by
  induction notices generalizing issued with
  | nil => cases member
  | cons notice later inductionHypothesis =>
    rcases List.mem_cons.mp member with rfl | inLater
    · rfl
    · exact inductionHypothesis inLater

/-- A scan always comes to an end.  It leaves the settings and the announcing, and puts its
alerts, of which none is acknowledged, in front of the history. -/
theorem checkOnce_records (monitor : Monitor) (fleet : Fleet) (now : Int) (before : Exchange σ) :
    ∃ next alerts after, monitor.checkOnce peers fleet now before = .ok (next, alerts) after ∧
      next.settings = monitor.settings ∧ next.silent = monitor.silent ∧
      next.history.capacity = monitor.history.capacity ∧
      next.history.alerts = (alerts.reverse ++ monitor.history.alerts).take monitor.history.capacity ∧
      ∀ alert ∈ alerts, alert.acknowledged = false := by
  rcases look_ok peers fleet before with ⟨view, after, seen, -⟩
  refine ⟨_, _, after, checkOnce_of_look peers seen, rfl, rfl, History.capacity_foldl_add _ _,
    History.alerts_foldl_add _ _, fun alert member => unacknowledged_of_number member⟩

end Monitor

/-! ## What a delivery sends -/

/-- The message about an alert, if there is one to send and it can be written. -/
def Webhook.message? (webhook : Webhook) (now : Int) (alert : Alert) : Option Post :=
  match webhook.sender, webhook.target with
  | .ok sender, .ok target =>
    if webhook.enabled && isWritable alert.value && isWritable alert.threshold then
      some (webhook.envelope sender target now alert)
    else none
  | _, _ => none

/-- What is made of the answer to a message. -/
def Webhook.judged (target : Url) : Delivery → Action σ Bool
  | .status code => ofExcept (fun fault => fault) (taken target code)
  | .undelivered => return false

theorem Webhook.left_judged (target : Url) (delivery : Delivery) (before : Exchange σ) :
    left (judged target delivery before) = before := by
  cases delivery with
  | status code =>
    rw [judged]
    cases taken target code <;> rfl
  | undelivered => rfl

/-- A delivery sends its message, or nothing to anyone. -/
theorem Webhook.send_cases (webhook : Webhook) (now : Int) (alert : Alert) :
    (webhook.message? now alert = none ∧
      ∃ outcome, webhook.send peers now alert = ofExcept (fun fault => fault) outcome) ∨
    ∃ post target, webhook.message? now alert = some post ∧
      webhook.send peers now alert = peers.send post >>= judged target := by
  unfold send message?
  cases webhook.enabled with
  | false => exact .inl ⟨by cases webhook.sender <;> cases webhook.target <;> rfl, .ok true, rfl⟩
  | true =>
    cases webhook.sender with
    | error fault => exact .inl ⟨rfl, .error fault, rfl⟩
    | ok sender =>
      cases webhook.target with
      | error fault => exact .inl ⟨rfl, .error fault, rfl⟩
      | ok target =>
        cases isWritable alert.value <;> cases isWritable alert.threshold
        case true.true => exact .inr ⟨_, target, rfl, rfl⟩
        all_goals exact .inl ⟨rfl, .error .unwritable, rfl⟩

/-- A delivery leaves what sending its message leaves. -/
theorem Webhook.left_send (webhook : Webhook) (now : Int) (alert : Alert) (before : Exchange σ) :
    (webhook.message? now alert = none ∧ left (webhook.send peers now alert before) = before) ∨
    ∃ post, webhook.message? now alert = some post ∧
      left (webhook.send peers now alert before) = left (peers.send post before) := by
  rcases webhook.send_cases peers now alert with
    ⟨nothing, outcome, sent⟩ | ⟨post, target, message, sent⟩
  · refine .inl ⟨nothing, ?_⟩
    rw [sent]
    cases outcome <;> rfl
  · refine .inr ⟨post, message, ?_⟩
    rw [sent]
    exact left_bind (fun exchange => exchange) (left_judged target) before

/-- The message that a monitor sends about an alert; none after it was stopped. -/
def Monitor.message? (monitor : Monitor) (now : Int) (alert : Alert) : Option Post :=
  if monitor.silent then none else monitor.webhook.message? now alert

theorem Monitor.deliver_ok (monitor : Monitor) (now : Int) (alert : Alert) (before : Exchange σ) :
    ∃ after, monitor.deliver peers now alert before = .ok () after ∧
      ((monitor.message? now alert = none ∧ after = before) ∨
        ∃ post, monitor.message? now alert = some post ∧ after = left (peers.send post before)) := by
  unfold deliver message?
  cases monitor.silent with
  | true => exact ⟨before, rfl, .inl ⟨rfl, rfl⟩⟩
  | false =>
    rcases attempt_ok (monitor.webhook.send peers now alert) before with ⟨outcome, after, sent⟩
    refine ⟨after, bind_of_ran sent, ?_⟩
    have told := monitor.webhook.left_send peers now alert before
    rw [← left_attempt, sent] at told
    exact told

/-- A delivery sends its message once, or nothing. -/
theorem Monitor.posts_of_deliver {monitor : Monitor} {now : Int} {alert : Alert}
    {before after : Exchange σ} (delivered : monitor.deliver peers now alert before = .ok () after) :
    after.posts = (monitor.message? now alert).toList ++ before.posts := by
  rcases monitor.deliver_ok peers now alert before with
    ⟨last, again, ⟨nothing, rfl⟩ | ⟨post, message, rfl⟩⟩
  · cases delivered.symm.trans again
    rw [nothing]
    rfl
  · cases delivered.symm.trans again
    rw [message]
    rfl

namespace Interleaving

/-! ## What holds of a desk -/

/-- Each scan begins with the monitor that the one before it left. -/
def Linked : Monitor → List Scanned → Monitor → Prop
  | first, [], last => last = first
  | first, scan :: later, last => scan.before = first ∧ Linked scan.after later last

/-- The alerts of a scan stand in front of the history, latest first, as far as there is
room. -/
structure Scanned.Recorded (scan : Scanned) : Prop where
  capacity : scan.after.history.capacity = scan.before.history.capacity
  history : scan.after.history.alerts =
    (scan.raised.reverse ++ scan.before.history.alerts).take scan.before.history.capacity

/-- What holds of a desk, whatever came of its deliveries: all alerts are recorded, one
delivery is started for each if alerts are announced, and no delivery is lost or made
twice. -/
structure Desk.Accounts (monitor : Monitor) (desk : Desk) : Prop where
  settings : desk.monitor.settings = monitor.settings
  silent : desk.monitor.silent = monitor.silent
  linked : Linked monitor desk.scans desk.monitor
  recorded : ∀ scan ∈ desk.scans, scan.Recorded
  unacknowledged : ∀ alert ∈ desk.raised, alert.acknowledged = false
  started : desk.started = if monitor.settings.announces then desk.raised else []
  once : (desk.underWay ++ desk.ended.map Prod.fst).Perm desk.started

/-- The messages of the deliveries that have ended. -/
def Desk.messages (monitor : Monitor) (desk : Desk) : List Post :=
  desk.ended.filterMap fun ended => monitor.message? ended.2 ended.1

theorem Linked.snoc {first last : Monitor} {scans : List Scanned} (linked : Linked first scans last)
    (scan : Scanned) (next : scan.before = last) : Linked first (scans ++ [scan]) scan.after := by
  induction scans generalizing first with
  | nil => exact ⟨next.trans linked, rfl⟩
  | cons earlier later inductionHypothesis => exact ⟨linked.1, inductionHypothesis linked.2⟩

/-- The scans say which monitor is the last. -/
theorem Linked.unique {first last other : Monitor} {scans : List Scanned}
    (linked : Linked first scans last) (also : Linked first scans other) : last = other := by
  induction scans generalizing first with
  | nil => exact linked.trans also.symm
  | cons scan later inductionHypothesis => exact inductionHypothesis linked.2 also.2

variable {monitor : Monitor} {desk : Desk}

theorem accounts_start (monitor : Monitor) : (Desk.start monitor).Accounts monitor where
  settings := rfl
  silent := rfl
  linked := rfl
  recorded := List.forall_mem_nil _
  unacknowledged := List.forall_mem_nil _
  started := by cases monitor.settings.announces <;> rfl
  once := .nil

theorem Desk.raised_scanned (desk : Desk) (next : Monitor) (alerts : List Alert) :
    (desk.scanned next alerts).raised = desk.raised ++ alerts := by
  change (desk.scans ++ [_]).flatMap Scanned.raised = _
  rw [List.flatMap_append, List.flatMap_singleton]
  rfl

/-- A scan records what it raises and sends nothing itself. -/
theorem Desk.Accounts.scan (accounts : desk.Accounts monitor) (fleet : Fleet) (now : Int)
    (before : Exchange σ) :
    ∃ next after, desk.scan peers fleet now before = .ok next after ∧ next.Accounts monitor ∧
      next.ended = desk.ended ∧ after.posts = before.posts := by
  rcases desk.monitor.checkOnce_records peers fleet now before with
    ⟨next, alerts, after, checked, settings, silent, capacity, history, fresh⟩
  have quiet : after.posts = before.posts := by
    have kept := kept_of_reading Exchange.posts peers
      (fun uri call _ => posts_of_request peers uri call)
      (fun reads => parallel_checkOnce reads desk.monitor fleet now) before
    rw [checked] at kept
    exact kept
  refine ⟨desk.scanned next alerts, after, bind_of_ran checked, ?_, rfl, quiet⟩
  constructor
  case settings => exact settings.trans accounts.settings
  case silent => exact silent.trans accounts.silent
  case linked => exact accounts.linked.snoc ⟨desk.monitor, alerts, next⟩ rfl
  case recorded =>
    intro scan member
    rcases List.mem_append.mp member with earlier | now
    · exact accounts.recorded scan earlier
    · rw [List.mem_singleton.mp now]
      exact ⟨capacity, history⟩
  case unacknowledged =>
    intro alert member
    rw [raised_scanned] at member
    exact (List.mem_append.mp member).elim (accounts.unacknowledged alert) (fresh alert)
  case started =>
    rw [raised_scanned, scanned, accounts.started, accounts.settings]
    cases monitor.settings.announces <;> simp
  case once =>
    rw [scanned]
    generalize (if desk.monitor.settings.announces then alerts else []) = begun
    have moved : (desk.underWay ++ begun ++ desk.ended.map Prod.fst).Perm
        (desk.underWay ++ desk.ended.map Prod.fst ++ begun) := by
      rw [List.append_assoc, List.append_assoc]
      exact List.perm_append_comm.append_left _
    exact moved.trans (accounts.once.append_right begun)

/-- A delivery that ends leaves the monitor and its scans as they are. -/
theorem Desk.deliver_cases (desk : Desk) (now : Int) (place : Nat) (before : Exchange σ) :
    (desk.underWay[place]? = none ∧ desk.deliver peers now place before = .ok desk before) ∨
    ∃ alert after, desk.underWay[place]? = some alert ∧
      desk.monitor.deliver peers now alert before = .ok () after ∧
      desk.deliver peers now place before = .ok (desk.delivered now place alert) after := by
  unfold Desk.deliver
  cases desk.underWay[place]? with
  | none => exact .inl ⟨rfl, rfl⟩
  | some alert =>
    rcases desk.monitor.deliver_ok peers now alert before with ⟨after, delivered, -⟩
    exact .inr ⟨alert, after, rfl, delivered, bind_of_ran delivered⟩

theorem Desk.Accounts.deliver (accounts : desk.Accounts monitor) (now : Int) (place : Nat)
    (before : Exchange σ) :
    ∃ next after, desk.deliver peers now place before = .ok next after ∧ next.Accounts monitor ∧
      ∃ sent : Option Post, next.messages monitor = desk.messages monitor ++ sent.toList ∧
        after.posts = sent.toList ++ before.posts := by
  rcases desk.deliver_cases peers now place before with
    ⟨-, ended⟩ | ⟨alert, after, found, delivered, ended⟩
  · exact ⟨desk, before, ended, accounts, none, (List.append_nil _).symm, rfl⟩
  · have posts := Monitor.posts_of_deliver peers delivered
    rcases List.getElem?_eq_some_iff.mp found with ⟨inRange, rfl⟩
    have same : desk.monitor.message? now = monitor.message? now := by
      funext alert
      rw [Monitor.message?, Monitor.message?, Monitor.webhook, Monitor.webhook, accounts.silent,
        accounts.settings]
    rw [same] at posts
    refine ⟨_, after, ended, ?_, _, ?_, posts⟩
    · refine { accounts with once := ?_ }
      rw [Desk.delivered, List.map_append, List.map_singleton, ← List.append_assoc]
      have moved := (List.getElem_cons_eraseIdx_perm inRange).append_right (desk.ended.map Prod.fst)
      exact ((List.perm_append_singleton _ _).trans moved).trans accounts.once
    · rw [Desk.messages, Desk.delivered, List.filterMap_append]
      congr 1

/-! ## What holds after any moves -/

/-- Whatever happens, the desk can account for its alerts, and what was sent are the
messages of the deliveries that have ended, each once. -/
theorem Desk.Accounts.follow (fleet : Fleet) (moves : List Move) {desk : Desk}
    (accounts : desk.Accounts monitor) {earlier : List Post} {before : Exchange σ}
    (told : before.posts = (desk.messages monitor).reverse ++ earlier) :
    ∃ last after, desk.follow peers fleet moves before = .ok last after ∧ last.Accounts monitor ∧
      after.posts = (last.messages monitor).reverse ++ earlier := by
  induction moves generalizing desk before with
  | nil => exact ⟨desk, before, rfl, accounts, told⟩
  | cons move later inductionHypothesis =>
    obtain ⟨next, middle, stepped, kept, toldThen⟩ : ∃ next middle,
        desk.step peers fleet move before = .ok next middle ∧ next.Accounts monitor ∧
          middle.posts = (next.messages monitor).reverse ++ earlier := by
      cases move with
      | scan now =>
        rcases accounts.scan peers fleet now before with ⟨next, middle, made, kept, ended, quiet⟩
        refine ⟨next, middle, made, kept, ?_⟩
        rw [quiet, told, messages, messages, ended]
      | deliver now place =>
        rcases accounts.deliver peers now place before with
          ⟨next, middle, made, kept, sent, messages, posts⟩
        refine ⟨next, middle, made, kept, ?_⟩
        rw [posts, told, messages, List.reverse_append]
        cases sent <;> rfl
    rcases inductionHypothesis kept toldThen with ⟨last, after, ran, rest⟩
    exact ⟨last, after, (bind_of_ran stepped).trans ran, rest⟩

/-- The history after some scans, from the one before them. -/
theorem history_of_linked {first last : Monitor} {scans : List Scanned}
    (linked : Linked first scans last) (recorded : ∀ scan ∈ scans, scan.Recorded) :
    last.history.capacity = first.history.capacity ∧
      last.history.alerts = ((scans.flatMap Scanned.raised).reverse ++ first.history.alerts).take
        first.history.capacity := by
  induction scans generalizing first with
  | nil =>
    cases linked
    exact ⟨rfl, (List.take_of_length_le last.history.fits).symm⟩
  | cons scan later inductionHypothesis =>
    rcases linked with ⟨rfl, linked⟩
    rcases List.forall_mem_cons.mp recorded with ⟨here, recorded⟩
    rcases inductionHypothesis linked recorded with ⟨capacity, history⟩
    refine ⟨capacity.trans here.capacity, ?_⟩
    rw [history, here.history, here.capacity, take_append_take, List.flatMap_cons,
      List.reverse_append, List.append_assoc]

/-- Where nothing was in the history before, it has as many alerts that are not
acknowledged as were raised, as far as there is room. -/
theorem Desk.Accounts.pending (accounts : desk.Accounts monitor)
    (fresh : monitor.history.alerts = []) :
    desk.monitor.history.pending = min monitor.history.capacity desk.raised.length := by
  rcases history_of_linked accounts.linked accounts.recorded with ⟨-, history⟩
  have all : ∀ alert ∈ desk.monitor.history.alerts, (!alert.acknowledged) = true := by
    intro alert member
    rw [history, fresh, List.append_nil] at member
    rw [accounts.unacknowledged alert (List.mem_reverse.mp (List.mem_of_mem_take member))]
    rfl
  rw [History.pending, List.countP_eq_length.mpr all, history, fresh, List.append_nil,
    List.length_take, List.length_reverse]
  rfl

/-! ## Deliveries that end at once -/

theorem Desk.follow_append {fleet : Fleet} {desk middle : Desk} {first : List Move}
    {before between : Exchange σ} (ran : desk.follow peers fleet first before = .ok middle between)
    (second : List Move) :
    desk.follow peers fleet (first ++ second) before = middle.follow peers fleet second between := by
  induction first generalizing desk before with
  | nil =>
    cases ran
    rfl
  | cons move later inductionHypothesis =>
    rcases ran_of_bind ran with ⟨next, after, stepped, rest⟩
    exact (bind_of_ran stepped).trans (inductionHypothesis rest)

/-- The deliveries under way can end one after another. -/
theorem Desk.follow_endings (desk : Desk) (fleet : Fleet) (now : Int) (before : Exchange σ) :
    ∃ last after,
      desk.follow peers fleet (List.replicate desk.underWay.length (.deliver now 0)) before =
        .ok last after ∧
      last.underWay = [] ∧ last.monitor = desk.monitor ∧ last.scans = desk.scans ∧
      desk.underWay.forM (desk.monitor.deliver peers now) before = .ok () after := by
  generalize waiting : desk.underWay = underWay
  induction underWay generalizing desk before with
  | nil => exact ⟨desk, before, rfl, waiting, rfl, rfl, rfl⟩
  | cons alert later inductionHypothesis =>
    rcases desk.monitor.deliver_ok peers now alert before with ⟨middle, delivered, -⟩
    have stepped : desk.step peers fleet (.deliver now 0) before =
        .ok (desk.delivered now 0 alert) middle := by
      rw [step, deliver, waiting]
      exact bind_of_ran delivered
    have fewer : (desk.delivered now 0 alert).underWay = later := by
      rw [Desk.delivered, waiting]
      rfl
    rcases inductionHypothesis (desk.delivered now 0 alert) middle fewer with
      ⟨last, after, ran, none, monitor, scans, rest⟩
    exact ⟨last, after, (bind_of_ran stepped).trans ran, none, monitor, scans,
      (bind_of_ran delivered).trans rest⟩

/-- Announcing alerts is delivering one after another, where alerts are announced. -/
theorem announce_eq (monitor : Monitor) (now : Int) (alerts : List Alert) :
    monitor.announce peers now alerts =
      (if monitor.settings.announces then alerts else []).forM (monitor.deliver peers now) := by
  unfold Monitor.announce Monitor.deliver
  cases monitor.settings.announces with
  | false => rfl
  | true =>
    cases monitor.silent with
    | false => rfl
    | true =>
      change _ = alerts.forM fun _ => (pure () : Action σ Unit)
      induction alerts with
      | nil => rfl
      | cons alert later inductionHypothesis => exact inductionHypothesis

/-- Scanning and announcing at once is one order of the moves. -/
theorem Desk.follow_checkAndAnnounce (desk : Desk) (idle : desk.underWay = []) (fleet : Fleet)
    (now : Int) (before : Exchange σ) :
    ∃ moves last alerts after, desk.follow peers fleet moves before = .ok last after ∧
      desk.monitor.checkAndAnnounce peers fleet now before = .ok (last.monitor, alerts) after ∧
      last.underWay = [] ∧ last.scans = desk.scans ++ [⟨desk.monitor, alerts, last.monitor⟩] := by
  rcases desk.monitor.checkOnce_records peers fleet now before with
    ⟨next, alerts, middle, checked, settings, -⟩
  rcases (desk.scanned next alerts).follow_endings peers fleet now middle with
    ⟨last, after, ran, none, monitor, scans, delivered⟩
  have made : desk.step peers fleet (.scan now) before = .ok (desk.scanned next alerts) middle :=
    bind_of_ran checked
  have announced : next.announce peers now alerts middle = .ok () after := by
    rw [announce_eq, settings]
    change (desk.underWay ++ _).forM (next.deliver peers now) middle = _ at delivered
    rw [idle] at delivered
    exact delivered
  refine ⟨.scan now :: _, last, alerts, after, (bind_of_ran made).trans ran, ?_, none, ?_⟩
  · rw [Monitor.checkAndAnnounce, bind_of_ran checked]
    dsimp only
    rw [bind_of_ran announced, monitor]
    rfl
  · rw [scans, monitor]
    rfl

/-! ## What a receiver cannot reach -/

section Apart

variable {τ υ : Type}
  (daemons : (uri : String) → (call : Call) → σ → Except PeerError call.Answer × σ)

/-- Daemons, and a receiver that they know nothing of. -/
def apart (receiver : Post → τ → Delivery × τ) : Peers (σ × τ) where
  answer uri call state :=
    ((daemons uri call state.1).1, (daemons uri call state.1).2, state.2)
  deliver post state := ((receiver post state.2).1, state.1, (receiver post state.2).2)

/-- The times of the scans among some moves. -/
def scanTimes (moves : List Move) : List Int :=
  moves.filterMap fun move =>
    match move with
    | .scan now => some now
    | .deliver _ _ => none

/-- The daemons are in the same state. -/
def SameDaemons (first : Exchange (σ × τ)) (second : Exchange (σ × υ)) : Prop :=
  first.peers.1 = second.peers.1

variable (receiver : Post → τ → Delivery × τ) (other : Post → υ → Delivery × υ)

theorem readsAlike_apart : ReadsAlike SameDaemons (apart daemons receiver) (apart daemons other) := by
  intro uri call _ first second same
  rw [Peers.request, Peers.request, apart, apart]
  dsimp only
  rw [show first.peers.1 = second.peers.1 from same]
  rcases daemons uri call second.peers.1 with ⟨answer | error, state⟩ <;> exact ⟨rfl, rfl⟩

/-- A delivery does not reach the daemons. -/
theorem daemons_of_deliver {monitor : Monitor} {now : Int} {alert : Alert}
    {before after : Exchange (σ × τ)}
    (delivered : monitor.deliver (apart daemons receiver) now alert before = .ok () after) :
    after.peers.1 = before.peers.1 := by
  rcases monitor.deliver_ok (apart daemons receiver) now alert before with
    ⟨last, again, ⟨-, rfl⟩ | ⟨post, -, rfl⟩⟩
  · cases delivered.symm.trans again
    rfl
  · cases delivered.symm.trans again
    rfl

/-- A run makes the same scans as one in which no delivery ever ends. -/
theorem follow_scans (fleet : Fleet) (moves : List Move) (desk twin : Desk)
    (monitor : desk.monitor = twin.monitor) (scans : desk.scans = twin.scans)
    {first : Exchange (σ × τ)} {second : Exchange (σ × υ)} (same : SameDaemons first second) :
    ∃ last here lastTwin there,
      desk.follow (apart daemons receiver) fleet moves first = .ok last here ∧
      twin.follow (apart daemons other) fleet ((scanTimes moves).map .scan) second =
        .ok lastTwin there ∧
      last.scans = lastTwin.scans := by
  -- The twin stays at its scans while a delivery of the run ends, so the monitors and the
  -- daemons are the same on both sides at every move.
  induction moves generalizing desk twin first second with
  | nil => exact ⟨desk, first, twin, second, rfl, rfl, scans⟩
  | cons move later inductionHypothesis =>
    cases move with
    | scan now =>
      rcases desk.monitor.checkOnce_records (apart daemons receiver) fleet now first with
        ⟨next, alerts, here, checked, -⟩
      rcases (parallel_checkOnce (readsAlike_apart daemons receiver other) desk.monitor fleet now).ok
        same checked with ⟨there, checkedThere, same⟩
      rw [monitor] at checkedThere
      have scansAfter : (desk.scanned next alerts).scans = (twin.scanned next alerts).scans := by
        rw [Desk.scanned, Desk.scanned, monitor, scans]
      have sameMonitor : (desk.scanned next alerts).monitor = (twin.scanned next alerts).monitor :=
        rfl
      have made : desk.step (apart daemons receiver) fleet (.scan now) first =
          .ok (desk.scanned next alerts) here := bind_of_ran checked
      have madeThere : twin.step (apart daemons other) fleet (.scan now) second =
          .ok (twin.scanned next alerts) there := bind_of_ran checkedThere
      rcases inductionHypothesis _ _ sameMonitor scansAfter same with
        ⟨last, ends, lastTwin, endsThere, ran, ranThere, rest⟩
      exact ⟨last, ends, lastTwin, endsThere, (bind_of_ran made).trans ran,
        (bind_of_ran madeThere).trans ranThere, rest⟩
    | deliver now place =>
      rcases desk.deliver_cases (apart daemons receiver) now place first with
        ⟨-, ended⟩ | ⟨alert, middle, -, delivered, ended⟩
      · rcases inductionHypothesis _ _ monitor scans same with ⟨last, here, lastTwin, there, ran, rest⟩
        exact ⟨last, here, lastTwin, there, (bind_of_ran ended).trans ran, rest⟩
      · have sameMonitor : (desk.delivered now place alert).monitor = twin.monitor := monitor
        have unreached := daemons_of_deliver daemons receiver delivered
        rcases inductionHypothesis _ _ sameMonitor scans (unreached.trans same) with
          ⟨last, here, lastTwin, there, ran, rest⟩
        exact ⟨last, here, lastTwin, there, (bind_of_ran ended).trans ran, rest⟩

/-- What a receiver answers and when deliveries end makes no difference to the scans. -/
theorem scans_unreached (fleet : Fleet) (monitor : Monitor) {moves others : List Move}
    (times : scanTimes moves = scanTimes others) {first here : Exchange (σ × τ)}
    {second there : Exchange (σ × υ)} (same : SameDaemons first second) {one two : Desk}
    (ranOne : (Desk.start monitor).follow (apart daemons receiver) fleet moves first = .ok one here)
    (ranTwo : (Desk.start monitor).follow (apart daemons other) fleet others second =
      .ok two there) :
    one.scans = two.scans := by
  let start := Desk.start monitor
  have unmoved : SameDaemons second second := rfl
  rcases follow_scans daemons receiver other fleet moves start start rfl rfl same with
    ⟨last, _, twin, _, ran, alone, scans⟩
  rcases follow_scans daemons other other fleet others start start rfl rfl unmoved with
    ⟨lastTwo, _, twinTwo, _, ranAgain, aloneTwo, scansTwo⟩
  cases ranOne.symm.trans ran
  cases ranTwo.symm.trans ranAgain
  rw [times] at alone
  cases alone.symm.trans aloneTwo
  exact scans.trans scansTwo.symm

end Apart

end Interleaving
end Alert
end ContainerFleet
