import BrokerRelay.Proofs.Dial.Arguments
/-!
# Candidates of a direct connection

A host may resolve to several addresses. The candidates of a direct connection are those that the
network admits, at the port of the target and in the order of the resolution. They are tried one after
the other, under one deadline for the resolution and all of them. An address that is listed twice makes
two candidates, and nothing ties what becomes of the one to what becomes of the other.

A run over the candidates remembers one failure, that of the candidate it tried last, so a row of
candidates that fail leaves the run where it would have started behind them with that failure
(`tryEach_append`). What the dial reports then follows from what is left: a candidate that answers, or
none.

A candidate that answers ends the run for good. Its stream is the outcome of the dial once the options
of its socket are set; if they cannot be set the dial fails, and no other candidate is tried in its
place (`candidates_tried`, `stream_lost_to_options`).
-/

namespace BrokerRelay.Dial

open Activity

variable {network address : String} {target : HostPort}

/-! ## §1 Candidates -/

/-- The network admits the address: `tcp` any one, `tcp4` and `tcp6` those of their family. -/
def Admits (network : String) (ip : IpAddress) : Prop :=
  network = "tcp" ∨ network = "tcp4" ∧ ip.isV4 = true ∨ network = "tcp6" ∧ ip.isV4 = false

instance (network : String) (ip : IpAddress) : Decidable (Admits network ip) :=
  inferInstanceAs (Decidable (_ ∨ _ ∧ _ ∨ _ ∧ _))

/-- The addresses to try, of those that a host resolved to. -/
def candidates (network : String) (target : HostPort) (ips : List IpAddress) : List SocketAddress :=
  (ips.filter (Admits network ·)).map (⟨·, target.port⟩)

/-- The family of a network admits the addresses that the network does. -/
theorem admits_iff {family : Family} (hfamily : checkNetwork network = .ok family) (ip : IpAddress) :
    family.admits ip = true ↔ Admits network ip := by
  rcases exists_checkNetwork_iff.1 ⟨family, hfamily⟩ with rfl | rfl | rfl
  · obtain rfl : family = .any := (Except.ok.inj hfamily).symm
    simp [Family.admits, Admits]
  · obtain rfl : family = .v4 := (Except.ok.inj hfamily).symm
    simp [Family.admits, Admits]
  · obtain rfl : family = .v6 := (Except.ok.inj hfamily).symm
    simp [Family.admits, Admits]

theorem admits_of_mem_candidates {ips : List IpAddress} {a : SocketAddress}
    (h : a ∈ candidates network target ips) : Admits network a.ip := by
  obtain ⟨ip, hip, rfl⟩ := List.mem_map.1 h
  exact of_decide_eq_true (List.mem_filter.1 hip).2

/-- The candidates lead to the addresses that they are made of, in their order. -/
theorem map_address_numbered (addresses : List SocketAddress) :
    (Candidate.numbered addresses).map Candidate.address = addresses := by
  rw [Candidate.numbered, List.map_map]
  exact List.zipIdx_map_fst 0 addresses

/-- The failure of an attempt without a candidate: the network has no address for the host. -/
def noCandidate (network : String) (target : HostPort) : IoFailure :=
  .noAddress network (String.ofList (Direct.resolvedHost target.host))

/-- Every candidate of a row fails, each after its own time and for its own reason. -/
def Network.FailsAll (net : Network) (took : Candidate → Nat) (cause : Candidate → IoFailure)
    (row : List Candidate) : Prop :=
  ∀ c ∈ row, net.connect c = some (took c, .error (cause c))

/-- The time that the candidates of a row take one after the other. -/
def timeOf (took : Candidate → Nat) : List Candidate → Nat
  | [] => 0
  | c :: row => took c + timeOf took row

/-- Why the last candidate of a row failed; a row without one has another cause. -/
def lastCause (cause : Candidate → IoFailure) (otherwise : IoFailure) (row : List Candidate) : IoFailure :=
  row.getLast?.elim otherwise cause

theorem lastCause_cons (cause : Candidate → IoFailure) (otherwise : IoFailure) (c : Candidate)
    (row : List Candidate) : lastCause cause otherwise (c :: row) = lastCause cause (cause c) row := by
  unfold lastCause
  rw [List.getLast?_cons]
  cases row.getLast? with
  | none => rfl
  | some b => rfl

namespace Direct

variable {d : Direct} {net : Network}

/-! ## §2 One candidate -/

section Step

variable {c : Candidate} {time : Nat}

/-- A candidate that fails is followed by the others, and its failure is the one so far. -/
theorem tryEach_of_failed {e : IoFailure} (h : net.connect c = some (time, .error e))
    (others : List Candidate) (last : IoFailure) :
    (tryEach net (c :: others) last).targets = c.address :: (tryEach net others e).targets ∧
      ∀ spent r, (tryEach net others e).EndsAt spent r →
        (tryEach net (c :: others) last).EndsAt (time + spent) r := by
  have hfirst : (opening c.address (net.connect c)).EndsAt time (.error e) := h
  rw [tryEach]
  constructor
  · exact targets_bind_of_endsAt hfirst
  · intro spent r hends
    exact endsAt_bind_iff.2 ⟨time, _, spent, hfirst, hends, rfl⟩

/-- A candidate that answers is the last one. -/
theorem tryEach_of_connected {route : Route} (h : net.connect c = some (time, .ok route))
    (others : List Candidate) (last : IoFailure) :
    (tryEach net (c :: others) last).targets = [c.address] ∧
      (tryEach net (c :: others) last).EndsAt time (.ok route) := by
  have hfirst : (opening c.address (net.connect c)).EndsAt time (.ok route) := h
  rw [tryEach]
  constructor
  · exact targets_bind_of_endsAt hfirst
  · exact endsAt_bind_iff.2 ⟨time, _, 0, hfirst, rfl, rfl⟩

/-- A candidate of which nothing ever becomes is the last one too. -/
theorem tryEach_of_endless (h : net.connect c = none) (others : List Candidate) (last : IoFailure) :
    (tryEach net (c :: others) last).targets = [c.address] := by
  rw [tryEach]
  exact targets_bind_of_endless h

end Step

/-! ## §3 A run over the candidates -/

/-- Whatever becomes of the candidates, a front of them is tried, in their order. -/
theorem targets_tryEach_front (net : Network) (row : List Candidate) (last : IoFailure) :
    (tryEach net row last).targets <+: row.map Candidate.address := by
  induction row generalizing last with
  | nil => exact List.prefix_refl []
  | cons c others ih =>
    have hfront : [c.address] <+: (c :: others).map Candidate.address :=
      ⟨others.map Candidate.address, rfl⟩
    rcases hconnect : net.connect c with _ | ⟨time, e | route⟩
    · rw [tryEach_of_endless hconnect]
      exact hfront
    · rw [(tryEach_of_failed hconnect others last).1]
      exact (List.prefix_cons_inj c.address).2 (ih e)
    · rw [(tryEach_of_connected hconnect others last).1]
      exact hfront

theorem inOrder_tryEach (net : Network) (row : List Candidate) (last : IoFailure) :
    (tryEach net row last).InOrder := by
  induction row generalizing last with
  | nil => exact List.Pairwise.nil
  | cons c others ih =>
    rw [tryEach]
    refine inOrder_bind_opening fun r => ?_
    cases r with
    | ok route => exact List.Pairwise.nil
    | error e => exact ih e

section Run

variable {took : Candidate → Nat} {cause : Candidate → IoFailure}

/-- **Candidates that fail are passed over**: the run goes on with the others, later by the time they took
and with the failure of the last of them. -/
theorem tryEach_append {failed : List Candidate} (hfailed : net.FailsAll took cause failed)
    (others : List Candidate) (last : IoFailure) :
    (tryEach net (failed ++ others) last).targets =
        failed.map Candidate.address ++ (tryEach net others (lastCause cause last failed)).targets ∧
      ∀ spent r, (tryEach net others (lastCause cause last failed)).EndsAt spent r →
        (tryEach net (failed ++ others) last).EndsAt (timeOf took failed + spent) r := by
  -- over the candidates that fail; each one leaves its own failure to the run behind it
  induction failed generalizing last with
  | nil =>
    refine ⟨rfl, fun spent r hends => ?_⟩
    rw [timeOf, Nat.zero_add]
    exact hends
  | cons c row ih =>
    obtain ⟨hc, hrow⟩ := List.forall_mem_cons.1 hfailed
    obtain ⟨htargets, hruns⟩ := ih hrow (cause c)
    obtain ⟨hfirst, hgoes⟩ := tryEach_of_failed hc (row ++ others) last
    rw [lastCause_cons]
    constructor
    · rw [List.cons_append, hfirst, htargets, List.map_cons, List.cons_append]
    · intro spent r hends
      have htime : timeOf took (c :: row) + spent = took c + (timeOf took row + spent) := by
        rw [timeOf, Nat.add_assoc]
      rw [htime]
      exact hgoes _ r (hruns spent r hends)

/-- The first candidate that answers is the last one tried, and the run ends with its route. -/
theorem tryEach_connects {failed others : List Candidate} {c : Candidate} {time : Nat}
    {route : Route} (hfailed : net.FailsAll took cause failed)
    (hc : net.connect c = some (time, .ok route)) (last : IoFailure) :
    (tryEach net (failed ++ c :: others) last).targets = failed.map Candidate.address ++ [c.address] ∧
      (tryEach net (failed ++ c :: others) last).EndsAt (timeOf took failed + time) (.ok route) := by
  obtain ⟨htargets, hruns⟩ := tryEach_append hfailed (c :: others) last
  obtain ⟨hfirst, hends⟩ := tryEach_of_connected hc others (lastCause cause last failed)
  rw [htargets, hfirst]
  exact ⟨rfl, hruns _ _ hends⟩

/-- If none answers all are tried, and the run ends with the failure of the last one. -/
theorem tryEach_fails {row : List Candidate} (hfailed : net.FailsAll took cause row)
    (last : IoFailure) :
    (tryEach net row last).targets = row.map Candidate.address ∧
      (tryEach net row last).EndsAt (timeOf took row) (.error (lastCause cause last row)) := by
  have hrow := tryEach_append hfailed [] last
  rw [List.append_nil] at hrow
  obtain ⟨htargets, hruns⟩ := hrow
  constructor
  · rw [htargets]
    exact List.append_nil _
  · exact hruns 0 _ rfl

end Run

/-! ## §4 The attempt under its deadline -/

section Dial

variable {family : Family} {start : Nat} {ips : List IpAddress}

/-- An attempt whose host is resolved is the run over its candidates, later by the time of the
resolution. -/
theorem attempt_of_resolved (hfamily : checkNetwork network = .ok family)
    (hresolved : net.resolve (resolvedHost target.host) = some (start, .ok ips)) :
    attempt net network family target =
      (tryEach net (Candidate.numbered (candidates network target ips))
        (noCandidate network target)).delayed start := by
  have hfilter : ips.filter family.admits = ips.filter (Admits network ·) := by
    refine List.filter_congr fun ip _ => ?_
    rw [Bool.eq_iff_iff, admits_iff hfamily, decide_eq_true_iff]
  simp only [attempt, andThen, hresolved, bind_waiting, hfilter]
  rfl

/-- A dial opens sockets to a front of its candidates, and its deadline only leaves out the last ones. -/
theorem targets_connect_front (hfamily : checkNetwork network = .ok family)
    (htarget : splitTarget address = .ok target)
    (hresolved : net.resolve (resolvedHost target.host) = some (start, .ok ips)) :
    (d.connect net network address).targets <+: candidates network target ips := by
  have hattempt := attempt_of_resolved hfamily hresolved
  have horder : (attempt net network family target).InOrder := by
    rw [hattempt]
    exact (inOrder_tryEach net _ _).delayed start
  have htried : (attempt net network family target).targets <+: candidates network target ips := by
    rw [hattempt, targets_delayed]
    have htried := targets_tryEach_front net (Candidate.numbered (candidates network target ips))
      (noCandidate network target)
    rw [map_address_numbered] at htried
    exact htried
  rw [connect_of_checked hfamily htarget]
  exact (targets_within_front horder _).trans htried

/-- A run that ends by the deadline decides the dial: it opens the sockets of the run, and all that is
left is what is made of the outcome. -/
theorem connect_of_run (hfamily : checkNetwork network = .ok family)
    (htarget : splitTarget address = .ok target)
    (hresolved : net.resolve (resolvedHost target.host) = some (start, .ok ips)) {spent : Nat}
    {r : Except IoFailure Route}
    (hends : (tryEach net (Candidate.numbered (candidates network target ips))
      (noCandidate network target)).EndsAt spent r)
    (hle : start + spent ≤ d.connectTimeout.toNanos) :
    (d.connect net network address).targets =
        (tryEach net (Candidate.numbered (candidates network target ips))
          (noCandidate network target)).targets ∧
      (d.connect net network address).EndsAt (start + spent) (d.settle net address (some r)) := by
  have hattempt : (attempt net network family target).EndsAt (start + spent) r := by
    rw [attempt_of_resolved hfamily hresolved]
    exact hends.delayed start
  rw [connect_of_checked hfamily htarget]
  constructor
  · calc
      _ = (attempt net network family target).targets := targets_within_of_endsAt hattempt hle
      _ = _ := by rw [attempt_of_resolved hfamily hresolved, targets_delayed]
  · exact endsAt_map_iff.2 ⟨_, endsAt_within_some_iff.2 ⟨hattempt, hle⟩, rfl⟩

end Dial

/-! ## §5 What a dial reports -/

/-- The failure that a dial reports for that of an operation on a socket. -/
inductive Reports (d : Direct) (address : String) : IoFailure → DialFailure → Prop
  | refused : d.Reports address .refused (.refused address)
  | timedOut : d.Reports address .timedOut (.timeout address d.connectTimeout)
  | other {cause : IoFailure} : cause ≠ .refused → cause ≠ .timedOut →
      d.Reports address cause (.unreachable address cause)

theorem reports_failureOf (d : Direct) (address : String) (cause : IoFailure) :
    d.Reports address cause (d.failureOf address cause) := by
  unfold failureOf
  split
  · exact .refused
  · exact .timedOut
  · next hrefused htimed => exact .other hrefused htimed

/-! ## §6 The dial -/

/-- **Candidates are tried in order until one answers.** For every network that there is, every address
that is a host and a port, and every resolution of the host:

* whatever becomes of the candidates and whenever, a front of them is tried, each once and in the order
  of the resolution; all that are tried are admitted by the network;
* if those of a front fail and the next one answers by the deadline, these are tried and no other. The
  dial ends with the route to the one that answered when the options of its socket are set, and fails if
  they cannot be;
* if all of them fail by the deadline, all are tried. The dial reports why the last one failed, or that
  there is no address if there was no candidate;
* every failure carries the address, and its text tells it.

What becomes of a candidate is any function of the candidate, so two at one address may fare
differently. -/
theorem candidates_tried (d : Direct) {start : Nat} {ips : List IpAddress} (hnetwork : IsNetwork network)
    (haddress : HostPort.ofString? address = some target)
    (hresolved : net.resolve (resolvedHost target.host) = some (start, .ok ips)) :
    let row := Candidate.numbered (candidates network target ips)
    let dial := d.connect net network address
    (dial.targets <+: candidates network target ips ∧ ∀ a ∈ dial.targets, Admits network a.ip) ∧
    (∀ took cause failed c others time route, row = failed ++ c :: others →
      net.FailsAll took cause failed → net.connect c = some (time, .ok route) →
      start + (timeOf took failed + time) ≤ d.connectTimeout.toNanos →
      dial.targets = failed.map Candidate.address ++ [c.address] ∧
      (net.prepare route.socket = .ok () →
        dial.EndsAt (start + (timeOf took failed + time)) (.ok route)) ∧
      ∀ e, net.prepare route.socket = .error e →
        dial.EndsAt (start + (timeOf took failed + time)) (.error (.unreachable address e))) ∧
    (∀ took cause, net.FailsAll took cause row →
      start + timeOf took row ≤ d.connectTimeout.toNanos →
      dial.targets = candidates network target ips ∧
      ∃ e, d.Reports address (lastCause cause (noCandidate network target) row) e ∧
        dial.EndsAt (start + timeOf took row) (.error e)) ∧
    ∀ time e, dial.EndsAt time (.error e) →
      Carries address e ∧ ∃ reason, e.message = "dial " ++ address ++ ": " ++ reason := by
  intro row dial
  obtain ⟨family, hfamily⟩ := exists_checkNetwork_iff.2 hnetwork
  have htarget : splitTarget address = .ok target := splitTarget_eq_ok_iff.2 haddress
  have hfront : dial.targets <+: candidates network target ips :=
    targets_connect_front hfamily htarget hresolved
  refine ⟨⟨hfront, fun a ha => admits_of_mem_candidates (hfront.subset ha)⟩, ?_, ?_, ?_⟩
  · intro took cause failed c others time route hrow hfailed hc hle
    obtain ⟨htried, hruns⟩ := tryEach_connects hfailed hc (noCandidate network target)
    rw [← hrow] at htried hruns
    obtain ⟨hsame, hends⟩ := connect_of_run hfamily htarget hresolved hruns hle
    refine ⟨hsame.trans htried, fun hprepare => ?_, fun e hprepare => ?_⟩
    · rw [settle, hprepare] at hends
      exact hends
    · rw [settle, hprepare] at hends
      exact hends
  · intro took cause hfailed hle
    obtain ⟨htried, hruns⟩ := tryEach_fails hfailed (noCandidate network target)
    obtain ⟨hsame, hends⟩ := connect_of_run hfamily htarget hresolved hruns hle
    rw [map_address_numbered] at htried
    exact ⟨hsame.trans htried, _, reports_failureOf d address _, hends⟩
  · intro time e hends
    have hcarries : Carries address e := connect_carries hfamily htarget hends
    exact ⟨hcarries, hcarries.message⟩

/-! ### A host with several addresses -/

/-- A network in which a host resolves after 700 ns to an address, to one of the other family and to the
first one again. The first candidate of a dial over IPv4 is refused and a later one answers, though it
leads to the same address; those over IPv6 time out. -/
def mixedNetwork : Network where
  resolve _ := some (700, .ok [.v4 10 0 0 1, .v6 [0xfd00, 0, 0, 0, 0, 0, 0, 1] rfl, .v4 10 0 0 1])
  connect c :=
    if c.address.ip.isV4 = false then some (500, .error .timedOut)
    else if c.number = 0 then some (1000, .error .refused)
    else some (2000, .ok { Chain.quietRoute with socket := c.address })
  prepare _ := .ok ()
  secure _ _ _ := none
  bind socket := .ok socket

/-- Over `tcp4` the address is reached when it is tried again; over `tcp6` only the other one is tried. -/
theorem candidates_tried_mixed :
    let over4 := Direct.connect ⟨⟨5, 0⟩, ⟨30, 0⟩⟩ mixedNetwork "tcp4" "kafka:9092"
    let over6 := Direct.connect ⟨⟨5, 0⟩, ⟨30, 0⟩⟩ mixedNetwork "tcp6" "kafka:9092"
    (over4.targets = [⟨.v4 10 0 0 1, 9092⟩, ⟨.v4 10 0 0 1, 9092⟩] ∧
      over4.EndsAt 3700 (.ok { Chain.quietRoute with socket := ⟨.v4 10 0 0 1, 9092⟩ })) ∧
    over6.targets = [⟨.v6 [0xfd00, 0, 0, 0, 0, 0, 0, 1] rfl, 9092⟩] ∧
    over6.EndsAt 1200 (.error (.timeout "kafka:9092" ⟨5, 0⟩)) := by
  have haddress : HostPort.ofString? "kafka:9092" = some ⟨"kafka".toList, 9092⟩ := by decide +kernel
  have hresolved : mixedNetwork.resolve (resolvedHost "kafka".toList) = some (700, .ok _) := rfl
  constructor
  · obtain ⟨-, hanswers, -, -⟩ :=
      candidates_tried ⟨⟨5, 0⟩, ⟨30, 0⟩⟩ (.inr (.inl rfl)) haddress hresolved
    obtain ⟨htried, hends, -⟩ := hanswers (fun _ => 1000) (fun _ => .refused)
      [⟨0, ⟨.v4 10 0 0 1, 9092⟩⟩] ⟨1, ⟨.v4 10 0 0 1, 9092⟩⟩ [] 2000 _ rfl
      (List.forall_mem_singleton.2 rfl) rfl (by decide)
    exact ⟨htried, hends rfl⟩
  · obtain ⟨-, -, hfails, -⟩ :=
      candidates_tried ⟨⟨5, 0⟩, ⟨30, 0⟩⟩ (.inr (.inr rfl)) haddress hresolved
    obtain ⟨htried, e, hreports, hends⟩ := hfails (fun _ => 500) (fun _ => .timedOut)
      (List.forall_mem_singleton.2 rfl) (by decide)
    cases hreports with
    | timedOut => exact ⟨htried, hends⟩
    | other _ htimed => exact absurd rfl htimed

/-- A network in which every connection is answered and no option of a socket can be set. -/
def stubbornNetwork : Network :=
  { Chain.quietNetwork with
    connect := fun c => some (0, .ok { Chain.quietRoute with socket := c.address })
    prepare := fun _ => .error (.other "Invalid argument (os error 22)") }

/-- **The stream of a candidate that answered may be lost.** The only candidate answers at once and the
dial fails all the same, as a keep-alive time of 40000 s cannot be set. -/
theorem stream_lost_to_options :
    let dial := Direct.connect ⟨⟨5, 0⟩, ⟨40000, 0⟩⟩ stubbornNetwork "tcp" "kafka:9092"
    let route : Route := { Chain.quietRoute with socket := ⟨.v4 127 0 0 1, 9092⟩ }
    HostPort.ofString? "kafka:9092" = some ⟨"kafka".toList, 9092⟩ ∧
    stubbornNetwork.resolve (resolvedHost "kafka".toList) = some (0, .ok [.v4 127 0 0 1]) ∧
    candidates "tcp" ⟨"kafka".toList, 9092⟩ [.v4 127 0 0 1] = [⟨.v4 127 0 0 1, 9092⟩] ∧
    stubbornNetwork.connect ⟨0, ⟨.v4 127 0 0 1, 9092⟩⟩ = some (0, .ok route) ∧
    dial.targets = [⟨.v4 127 0 0 1, 9092⟩] ∧
    dial.EndsAt 0 (.error (.unreachable "kafka:9092" (.other "Invalid argument (os error 22)"))) ∧
    ¬∃ time, dial.EndsAt time (.ok route) := by
  intro dial route
  have haddress : HostPort.ofString? "kafka:9092" = some ⟨"kafka".toList, 9092⟩ := by decide +kernel
  have hends : dial.EndsAt 0
      (.error (.unreachable "kafka:9092" (.other "Invalid argument (os error 22)"))) := rfl
  refine ⟨haddress, rfl, rfl, rfl, rfl, hends, ?_⟩
  rintro ⟨time, hroute⟩
  obtain ⟨-, heq⟩ := hends.unique hroute
  cases heq

end Direct

end BrokerRelay.Dial
