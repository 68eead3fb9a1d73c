import Coherence.Interleaving.Bench

set_option autoImplicit false

namespace Coherence.Interleaving

namespace Writing

def account (result : Except Fault Unit) (node : Node) : Writing → Node × Log
  | .announcing => node.published result
  | .withdrawing => node.withdrawn result
  | .sweeping owner => node.swept owner result

end Writing

namespace Bench

def sweepIf (k : Incarnation) (view : View) (primary : Bool) : List Action :=
  if primary then Action.reading k (.sweeping view) else []

def answerIf (answering : Bool) (outcome : Outcome) : List Action :=
  if answering then [.answer (.outcome outcome)] else []

def useEntries (bench : Bench) (k : Incarnation) : Inquiry → Except Fault Entries → Bench × List Action
  | .recomputing _, .error fault => (bench.note k (.readFailed fault), [])
  | .recomputing generation, .ok entries => (bench.amend k (·.adopt generation entries), [])
  | .sweeping _, .error fault => (bench.note k (.sweepReadFailed fault), [])
  | .sweeping view, .ok entries =>
      (bench, (view.deadOwners entries.keys).flatMap fun owner => Action.writing k (.remove owner) (.sweeping owner))

-- Time stands still, so that a delivery with a delay is not made as long as anyone looks.
def delivery (bus : Bus Incarnation) (event : Event) (mode : Mode) (target : NodeId × Incarnation) :
    Except Fault (List Action) :=
  if target.1 ∈ bus.unreachable then .error (.unreachable target.1)
  else if bus.delayOf target.1 = 0 then .ok (Action.receiving target.2 event)
  else if mode = .sync ∧ bus.timeout = 0 then .error (.timeout (.ofMillis bus.timeout))
  else .ok [.sleep]

def firstFault : List (Except Fault (List Action)) → Except Fault Unit
  | [] => .ok ()
  | .error fault :: _ => .error fault
  | .ok _ :: deliveries => firstFault deliveries

-- Who waits hands the event over itself; otherwise each delivery is a task of its own.
def broadcast (bench : Bench) (node : Node) (event : Event) (mode : Mode) :
    Bench × List Action × Except Fault Unit :=
  let cluster := bench.cluster
  let targets := cluster.bus.targets cluster.channel node.id
  let call : Call := ⟨node.id, cluster.channel, event, mode, targets.map (·.1)⟩
  let bench := bench.withCluster { cluster with bus := cluster.bus.record call }
  let deliveries := targets.map (delivery cluster.bus event mode)
  let agendas := deliveries.filterMap Except.toOption
  match mode with
  | .sync => (bench, agendas.flatten, firstFault deliveries)
  | .async => (agendas.foldl (fun bench agenda => bench.spawn { agenda }) bench, [], .ok ())

def act (bench : Bench) (k : Incarnation) (node : Node) : Work → Bench × List Action
  | .start =>
      match bench.cluster.beginStart k node with
      | .error error => (bench, [.release (.lifecycle k), .answer (.error error)])
      | .ok cluster => (bench.withCluster cluster, [.pass k .currentMembers, .work k .admission])
  | .admission =>
      match bench.cluster.admission (bench.refused k) k node with
      | (cluster, .error error) => (bench.withCluster cluster, [.release (.lifecycle k), .answer (.error error)])
      | (cluster, .ok ()) =>
          (bench.withCluster cluster,
            Action.publishing k ++ [.work k .recompute, .release (.lifecycle k), .answer .done])
  | .stop =>
      if node.state = .stopped then (bench, [.release (.lifecycle k), .answer .done])
      else
        (bench.withCluster (bench.cluster.beginStop (bench.refused k) k node),
          .acquire (.publishing k) :: Action.writing k (.remove node.id) .withdrawing ++
            [.release (.publishing k), .work k .endStop, .release (.lifecycle k), .answer .done])
  | .endStop => (bench.withCluster (bench.cluster.endStop k), [])
  | .publish => (bench, if node.isRunning then Action.writing k node.announcing .announcing else [])
  | .write mutation why =>
      let service := Service.ofMutation mutation
      if bench.refused k service then (bench, [.work k (.written why (.error service.refusal))])
      else
        match bench.cluster.write k node mutation with
        | (cluster, .error fault) => (bench.withCluster cluster, [.work k (.written why (.error fault))])
        | (cluster, .ok audience) =>
            (bench.withCluster cluster, audience.map (.work · .storeChanged) ++ [.work k (.written why (.ok ()))])
  | .written why result => (bench.amend k fun node => why.account result node, [])
  | .recompute =>
      let node := node.drawGeneration
      (bench.withCluster (bench.cluster.setNode k node), Action.reading k (.recomputing node.generation))
  | .read why =>
      if bench.refused k .getAll then (bench, [.work k (.entries why (.error Service.getAll.refusal))])
      else
        let result := node.replica.read bench.cluster.store bench.cluster.channel
        (bench, [.pass k .getAllAfter, .work k (.entries why result)])
  | .entries why result => bench.useEntries k why result
  | .storeChanged => (bench, if node.isRunning then [.work k .recompute] else [])
  | .groupsChanged => (bench, if node.isRunning then Action.publishing k else [])
  | .membershipChanged view =>
      if node.isRunning then
        match bench.cluster.config.election with
        | .lowestNodeId => (bench, sweepIf k view (view.isPrimary node.id))
        | .membershipService => (bench, [.pass k .currentMembers, .work k (.primaryCheck view)])
      else (bench, [])
  | .primaryCheck view =>
      let primary := bench.cluster.hub.isPrimary node.id bench.cluster.channel
      match Service.attempt (bench.refused k) .currentMembers primary with
      | .error fault => (bench.note k (.primaryCheckFailed fault), [])
      | .ok primary => (bench, sweepIf k view primary)
  | .invalidated event mode => (bench, if node.isRunning then [.work k (.send event mode false)] else [])
  | .send event mode answering =>
      match node.snapshot.gate event with
      | none => (bench.amend k fun node => (node.count .broadcastsSuppressed, []), answerIf answering .suppressed)
      | some wanted => (bench, [.pass k .broadcast, .work k (.broadcast wanted mode answering)])
  | .broadcast event mode answering =>
      if bench.refused k .broadcast then
        (bench, [.work k (.conclude event (.error Service.broadcast.refusal) answering)])
      else
        let (bench, deliveries, result) := bench.broadcast node event mode
        (bench, deliveries ++ [.work k (.conclude event result answering)])
  | .conclude event result answering =>
      let (relay, outcome, log) := node.relay.conclude event result
      (bench.amend k fun _ => ({ node with relay }, log), answerIf answering outcome)
  | .apply event =>
      if bench.refused k .apply then
        let (relay, log) := node.relay.acknowledge (.error Service.apply.refusal)
        (bench.amend k fun _ => ({ node with relay }, log), [])
      else (bench.amend k (·.dispatch event), [])

def install (bench : Bench) (id : NodeId) : Bench × List Action :=
  match bench.cluster.config.validate with
  | .error error => (bench, [.answer (.error error)])
  | .ok () =>
      let k := bench.cluster.nodes.size
      let bench := match bench.cluster.current[id]? with
        | some old => bench.lose id old
        | none => bench
      let cluster := bench.cluster.setNode k (.create id)
      (bench.withCluster { cluster with current := cluster.current.insert id k }, [.answer .done])

def perform (bench : Bench) (id : Nat) (request : Option Nat) : Action → Bench × Option (List Action)
  | .acquire lock =>
      let (bench, taken) := bench.acquire id lock
      (bench, if taken then some [] else none)
  | .release lock => (bench.release lock, some [])
  | .pass k service =>
      let (bench, passed) := bench.pass id (k, service)
      (bench, if passed then some [] else none)
  | .work k work =>
      match bench.cluster.nodes[k]? with
      | none => (bench, some [])
      | some node =>
          let (bench, more) := bench.act k node work
          (bench, some more)
  | .tellCircle circle view =>
      (bench, some ((bench.cluster.hub.circleListeners circle).map fun k => .work k (.membershipChanged view)))
  | .install node =>
      let (bench, more) := bench.install node
      (bench, some more)
  | .answer reply =>
      match request with
      | none => (bench, some [])
      | some index => ({ bench with answered := bench.answered.insert index reply }, some [])
  | .sleep => (bench, none)

-- What an action leads to is done before all else that its task has to do.
def turn (bench : Bench) : Bench :=
  match bench.ready with
  | [] => bench
  | id :: rest =>
      match bench.tasks[id]? with
      | none => { bench with ready := rest }
      | some task =>
          match task.agenda with
          | [] => { bench with ready := rest }.finish id
          | action :: agenda =>
              match bench.perform id task.request action with
              | (bench, some more) => bench.setTask id { task with agenda := more ++ agenda }
              | (bench, none) => { bench.setTask id { task with agenda } with ready := bench.ready.tail }

def settle : Nat → Bench → Bench
  | 0, bench => bench
  | bound + 1, bench => if bench.ready.isEmpty then bench else settle bound bench.turn

end Bench

end Coherence.Interleaving
