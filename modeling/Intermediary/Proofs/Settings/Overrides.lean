import Intermediary.CommandLine
import Intermediary.Proofs.Settings.Violations

/-!
# Settings with what a command line puts in their place

Arguments change four settings at most, each only when it is given.  The port
goes behind the last colon of the address, which is before its port in every
address; a parent has a host.  So sound settings stay sound, unless a parent
without a port is given.
-/

namespace Intermediary

open Text Settings

namespace SocketAddress

/-- Another port in the text of an address is another port of the address. -/
theorem ofText?_withPort {text : String} {address : SocketAddress}
    (h : ofText? text = some address) {port : Nat} (hport : port < portBound) :
    ofText? (Overrides.withPort text port) = some (address.atPort port) := by
  obtain ⟨front, digits, hsplit, hfree, hwrites⟩ := (ofText?_eq_some_iff.1 h).exists_port
  refine ofText?_eq_some_iff.2 ?_
  have htext : (Overrides.withPort text port).toList =
      front ++ ':' :: (decimal port).toList := by
    simp [Overrides.withPort, cutAtLast_of_split hsplit hfree]
  rw [htext]
  exact hwrites port _ (writesBelow_decimal hport)

end SocketAddress

namespace Overrides

/-- What the arguments of a command line can give. -/
structure Given (overrides : Overrides) : Prop where
  port : ∀ port, overrides.port = some port -> port < portBound
  parent : ∀ parent, overrides.parent = some parent -> ∃ text, Parent.ofText text = .ok parent
  ceiling : ∀ seconds, overrides.ceiling = some seconds -> seconds < wordBound

/-- Settings differ from those that a file gave where the arguments say so, and nowhere else. -/
structure Applied (overrides : Overrides) (settings result : Settings) : Prop where
  others : ∀ area ∉ [Area.listener, .cache, .blocklist, .parent], area.Same settings result
  cache : result.cache =
    { settings.cache with ceiling := overrides.ceiling.or settings.cache.ceiling }
  blocklist : result.blocklist.path = overrides.blocklist.or settings.blocklist.path
  parent : result.parent = overrides.parent.or settings.parent
  unmoved : overrides.port = none -> result.listener = settings.listener
  /-- The address is the one that it was, at the port that was given. -/
  moved : ∀ port, overrides.port = some port -> ∃ address,
    SocketAddress.ofText? settings.listener.address = some address ∧
      SocketAddress.ofText? result.listener.address = some (address.atPort port)
  sound : result.violations = [] ↔
    ∀ parent, overrides.parent = some parent -> parent.port ≠ 0

end Overrides

namespace CommandLine

private theorem lt_of_port? {text : String} {port : Nat} (h : port? text = some port) :
    port < portBound := by
  unfold port? at h
  split at h
  · cases h
  · have hlt := numeral?_lt h
    unfold portBound
    omega
  · exact numeral?_lt h

private theorem given_of_ofGiven (values : List (Flag × String)) :
    (ofGiven values).overrides.Given where
  port := by
    intro port h
    obtain ⟨text, _, hread⟩ := Option.bind_eq_some_iff.1 h
    exact lt_of_port? hread
  parent := by
    intro parent h
    obtain ⟨text, _, hread⟩ := Option.bind_eq_some_iff.1 h
    refine ⟨text, ?_⟩
    unfold parent? at hread
    cases htext : Parent.ofText text with
    | error fault =>
        rw [htext] at hread
        cases hread
    | ok found =>
        rw [htext] at hread
        cases hread
        rfl
  ceiling := by
    intro seconds h
    obtain ⟨text, _, hread⟩ := Option.bind_eq_some_iff.1 h
    exact numeral?_lt hread

private theorem exists_of_bind {ε α β : Type} {attempt : Except ε α} {next : α -> Except ε β}
    {b : β} (h : attempt >>= next = .ok b) : ∃ a, attempt = .ok a ∧ next a = .ok b := by
  cases attempt with
  | error fault => cases h
  | ok a => exact ⟨a, rfl, h⟩

/-- Whatever arguments are accepted, their values are of the kinds that are asked for. -/
theorem given_of_ofArguments {arguments : List String} {line : CommandLine}
    (h : ofArguments arguments = .ok line) : line.overrides.Given := by
  obtain ⟨⟨reading, command⟩, _, h⟩ := exists_of_bind h
  obtain ⟨settled, _, h⟩ := exists_of_bind h
  cases h
  exact given_of_ofGiven settled.given

end CommandLine

namespace Parent

private theorem host_ne_of_ofText {text : String} {parent : Parent}
    (h : ofText text = .ok parent) : parent.host ≠ "" := by
  unfold ofText at h
  split at h
  · cases h
  · split at h
    · cases h
    · split at h
      · cases h
      · next hne =>
        cases h
        exact hne

end Parent

namespace Overrides

variable {overrides : Overrides} {settings : Settings}

private theorem same_apply : ∀ area ∉ [Area.listener, .cache, .blocklist, .parent],
    area.Same settings (overrides.apply settings) := by
  intro area h
  cases area <;> first | rfl | exact absurd (by decide) h

private theorem cache_apply : (overrides.apply settings).cache =
    { settings.cache with ceiling := overrides.ceiling.or settings.cache.ceiling } := by
  unfold apply
  cases overrides.ceiling <;> rfl

private theorem blocklist_apply : (overrides.apply settings).blocklist.path =
    overrides.blocklist.or settings.blocklist.path := by
  unfold apply
  cases overrides.blocklist <;> rfl

theorem parent_apply : (overrides.apply settings).parent =
    overrides.parent.or settings.parent := by
  unfold apply
  cases overrides.parent <;> rfl

private theorem listener_apply (h : overrides.port = none) :
    (overrides.apply settings).listener = settings.listener := by
  unfold apply
  rw [h]

private theorem address_apply {port : Nat} (h : overrides.port = some port) :
    (overrides.apply settings).listener.address =
      withPort settings.listener.address port := by
  unfold apply
  rw [h]

private theorem ofText?_apply (hgiven : overrides.Given) (hsound : settings.violations = [])
    {port : Nat} (h : overrides.port = some port) :
    ∃ address, SocketAddress.ofText? settings.listener.address = some address ∧
      SocketAddress.ofText? (overrides.apply settings).listener.address =
        some (address.atPort port) := by
  have hbefore := violations_eq_nil_iff.1 hsound .listenerAddress
  obtain ⟨address, haddress⟩ := Option.isSome_iff_exists.1 hbefore
  refine ⟨address, haddress, ?_⟩
  rw [address_apply h]
  exact SocketAddress.ofText?_withPort haddress (hgiven.port port h)

/-- Constraints but the one on the port of a parent hold of what is put in place. -/
theorem holds_apply (hgiven : overrides.Given) (hsound : settings.violations = [])
    {constraint : Constraint} (hport : constraint ≠ .parentPort) :
    constraint.holds (overrides.apply settings) = true := by
  have hbefore := violations_eq_nil_iff.1 hsound constraint
  cases constraint with
  | listenerAddress =>
      cases hoverride : overrides.port with
      | none =>
          unfold Constraint.holds
          rw [listener_apply hoverride]
          exact hbefore
      | some port =>
          obtain ⟨address, _, hread⟩ := ofText?_apply hgiven hsound hoverride
          exact Option.isSome_iff_exists.2 ⟨_, hread⟩
  | stripes =>
      unfold Constraint.holds
      rw [cache_apply]
      exact hbefore
  | parentHost =>
      have hhost := (Constraint.holds_iff_of_ne (by decide)).1 hbefore
      refine (Constraint.holds_iff_of_ne (by decide)).2 ?_
      intro parent hparent
      rw [parent_apply] at hparent
      rcases Option.or_eq_some_iff.1 hparent with hparent | ⟨_, hparent⟩
      · obtain ⟨text, htext⟩ := hgiven.parent parent hparent
        exact Parent.host_ne_of_ofText htext
      · exact hhost parent hparent
  | parentPort => exact absurd rfl hport
  | _ => exact hbefore

theorem holds_parentPort_apply_iff (hsound : settings.violations = []) :
    Constraint.parentPort.holds (overrides.apply settings) = true ↔
      ∀ parent, overrides.parent = some parent -> parent.port ≠ 0 := by
  have hbefore := violations_eq_nil_iff.1 hsound .parentPort
  rw [Constraint.holds_iff_of_ne (by decide)] at hbefore ⊢
  unfold Constraint.Asks
  rw [parent_apply]
  cases overrides.parent with
  | none => exact iff_of_true hbefore fun parent h => (nomatch h)
  | some given => rfl

/-- Sound settings stay sound, unless a parent without a port is put in place. -/
theorem applied_of_given (hgiven : overrides.Given) (hsound : settings.violations = []) :
    overrides.Applied settings (overrides.apply settings) where
  others := same_apply
  cache := cache_apply
  blocklist := blocklist_apply
  parent := parent_apply
  unmoved := listener_apply
  moved := fun _ h => ofText?_apply hgiven hsound h
  sound := by
    rw [← holds_parentPort_apply_iff hsound, violations_eq_nil_iff]
    refine ⟨fun h => h .parentPort, fun h constraint => ?_⟩
    by_cases hport : constraint = .parentPort
    · rw [hport]
      exact h
    · exact holds_apply hgiven hsound hport

def linkLocal : Settings := { listener := { address := "[fe80::1%3]:8080" } }

private theorem violations_linkLocal : linkLocal.violations = [] := by
  refine violations_eq_nil_iff.2 fun constraint => ?_
  cases constraint with
  | listenerAddress => decide
  | _ => exact holds_of_same_default rfl

/-- Four settings changed at once, the port of a local address among them. -/
theorem applied_linkLocal :
    ∃ line, CommandLine.ofArguments
        ["--port", "9090", "-b", "hosts", "--upstream=[::1]:3128", "-m60"] = .ok line ∧
      line.overrides.Applied linkLocal (line.overrides.apply linkLocal) ∧
      (line.overrides.apply linkLocal).listener.address = "[fe80::1%3]:9090" ∧
      (line.overrides.apply linkLocal).violations = [] := by
  have hline : CommandLine.ofArguments
      ["--port", "9090", "-b", "hosts", "--upstream=[::1]:3128", "-m60"] =
      .ok ⟨none, ⟨some 9090, some "hosts", some ⟨"::1", 3128⟩, some 60⟩⟩ := by
    decide
  have happlied := applied_of_given (CommandLine.given_of_ofArguments hline)
    violations_linkLocal
  refine ⟨_, hline, happlied, by decide, happlied.sound.2 ?_⟩
  intro parent hparent
  cases hparent
  decide

end Overrides

end Intermediary
