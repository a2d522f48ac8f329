import Stencil.Pipeline.Forge

/-!
# Sessions

What is connected to a journal while it is used.

A session is a journal together with the tokens that it gave, and what is done
with it is a list of acts. It connects verbosities, hands tokens back, says
messages, and forges, in any order; an act that hands back a token for the
second time is refused, and the session ends there.

An order is bracketed if each token goes back while it is the last one that is
still out, and none is out at the end. `Nesting` keeps the account for that: it
reads the acts alone, knows which connections are open, and nothing of journals.
The journal on the other hand knows one connection only, what was connected
before is in the tokens. `Linked` ties the two: the tokens of the open
connections form a chain, each remembers what the one below it connected, and
the last one remembers what was connected at the start. Their numbers decrease
down the chain, so handing one back leaves those below it unspent. A step of a
session keeps the chain, and forging does so because it leaves the connection as
it was, however it ends.

## Main definitions

* `Act`: What can be done with a journal.
* `Session.step`, `Session.run`: What comes of an act, and of several.
* `Nesting`: Which connections are open.
* `Session.Bracketed`: Acts that hand back each token, the last one given first.
* `Session.Linked`: The tokens of the open connections form a chain.

## Theorems

* `Session.sound_run`: Tokens of a session are tokens that its journal gave.
* `Session.linked_step`, `Session.linked_run`: The chain is kept.
* `Session.run_bracketed`: Bracketed acts restore the connection.
-/

namespace Stencil

/-- What can be done with a journal. Runs are among it, since a run connects and disconnects by
    itself while it lasts. -/
inductive Act where
  | connect (verbosity : Option Int)
  /-- Hand back a token, named by its place among those that were given. -/
  | disconnect (index : Nat)
  | say (m : Message)
  | forge (source : String) (loader : Files.Loader) (renderer : Option Renderer)
      (settings : Settings)
  | forgeCallout (h : Highlight.Highlighter) (source : String) (loader : Files.Loader)
      (renderer : Option Renderer) (settings : Settings)

/-- A journal and the tokens that it gave, in order. A token is a value that a caller may keep for
    as long as it likes, so all of them are kept here. -/
structure Session where
  journal : Journal := {}
  tokens : List Journal.Token := []

namespace Session

/-- What comes of an act; `none` if a token is refused. -/
def step (s : Session) : Act → Option Session
  | .connect verbosity =>
    let (token, journal) := s.journal.connect verbosity
    some { journal, tokens := s.tokens ++ [token] }
  | .disconnect index => do
    let token ← s.tokens[index]?
    let journal ← s.journal.disconnect token
    return { s with journal }
  | .say m => some { s with journal := s.journal.play [m] }
  | .forge source loader renderer settings =>
    some { s with journal := (Stencil.forge source loader renderer settings s.journal).2 }
  | .forgeCallout h source loader renderer settings =>
    some { s with journal := (Stencil.forgeCallout h source loader renderer settings s.journal).2 }

/-- What comes of several acts, one after the other. -/
def run (s : Session) (acts : List Act) : Option Session :=
  acts.foldlM step s

@[simp] theorem run_nil (s : Session) : s.run [] = some s := rfl

theorem run_cons (s : Session) (act : Act) (acts : List Act) :
    s.run (act :: acts) = (s.step act).bind fun next => next.run acts := by
  unfold run
  rw [List.foldlM_cons]
  rfl

end Session

/-! ## Nesting -/

/-- A connection that was not yet undone. -/
structure Opened where
  /-- The place of its token among those that were given. -/
  index : Nat
  verbosity : Option Int
deriving DecidableEq, Repr

/-- How many tokens were given, and the connections that are open, the innermost
    first. -/
structure Nesting where
  given : Nat
  opened : List Opened := []
deriving DecidableEq, Repr

namespace Nesting

/-- What an act opens and closes; `none` if it closes anything but the innermost
    connection. -/
def step (n : Nesting) : Act → Option Nesting
  | .connect verbosity => some ⟨n.given + 1, ⟨n.given, verbosity⟩ :: n.opened⟩
  | .disconnect index =>
    match n.opened with
    | [] => none
    | innermost :: outer =>
      if innermost.index = index then some { n with opened := outer } else none
  | .say _ | .forge .. | .forgeCallout .. => some n

/-- What several acts open and close. -/
def run (n : Nesting) (acts : List Act) : Option Nesting :=
  acts.foldlM step n

/-- What is connected if it was the given one outside. -/
def connected (outside : Option Int) : List Opened → Option Int
  | [] => outside
  | innermost :: _ => innermost.verbosity

@[simp] theorem run_nil (n : Nesting) : n.run [] = some n := rfl

theorem run_cons (n : Nesting) (act : Act) (acts : List Act) :
    n.run (act :: acts) = (n.step act).bind fun next => next.run acts := by
  unfold run
  rw [List.foldlM_cons]
  rfl

theorem run_append (n : Nesting) (one other : List Act) :
    n.run (one ++ other) = (n.run one).bind fun next => next.run other := by
  unfold run
  rw [List.foldlM_append]
  rfl

end Nesting

/-! ## Sound sessions -/

namespace Session

/-- The session's connections, before any of its next acts. -/
def nesting (s : Session) : Nesting :=
  { given := s.tokens.length }

/-- Acts that close what they open, and nothing else, the innermost first. Apart from how many
    tokens were given before, this is a condition on the acts alone, and needs no run of them. -/
def Bracketed (s : Session) (acts : List Act) : Prop :=
  ∃ given, s.nesting.run acts = some { given }

/-- The tokens that are held, and those that were handed back, are tokens that the
    journal gave. -/
structure Sound (s : Session) : Prop where
  spent : ∀ number ∈ s.journal.spent, number < s.journal.issued
  tokens : ∀ token ∈ s.tokens, token.number < s.journal.issued

theorem sound_empty : Sound {} :=
  ⟨fun _ h => absurd h List.not_mem_nil, fun _ h => absurd h List.not_mem_nil⟩

end Session

theorem Journal.disconnect_eq_some_iff {j after : Journal} {token : Journal.Token} :
    j.disconnect token = some after ↔ token.number ∉ j.spent ∧ j.restore token = after := by
  unfold disconnect
  by_cases hspent : token.number ∈ j.spent
  · simp [hspent]
  · simp [hspent]

/-- What forging does to the tokens of a journal: it gives one, and takes it back. -/
theorem issued_forge (source : String) (loader : Files.Loader) (renderer : Option Renderer)
    (settings : Settings) (journal : Journal) :
    let after := (forge source loader renderer settings journal).2
    after.issued = journal.issued + 1 ∧ after.spent = journal.issued :: journal.spent :=
  ⟨rfl, rfl⟩

theorem issued_forgeCallout (h : Highlight.Highlighter) (source : String)
    (loader : Files.Loader) (renderer : Option Renderer) (settings : Settings)
    (journal : Journal) :
    let after := (forgeCallout h source loader renderer settings journal).2
    after.issued = journal.issued + 1 ∧ after.spent = journal.issued :: journal.spent := by
  have hforge := issued_forge source loader renderer settings journal
  unfold forgeCallout
  generalize forge source loader renderer settings journal = forged at hforge ⊢
  obtain ⟨outcome, after⟩ := forged
  cases outcome with
  | ok content => exact hforge
  | error failure =>
      -- After a failure the callout is built, and nothing connects for that.
      dsimp only
      split
      · exact hforge
      · exact hforge

namespace Session

variable {s next : Session}

/-- A step that leaves the connection as it was and may give a token for a while. Tokens that are
    spent by it are its own or were spent before, so those that the session holds are as good as
    they were. -/
structure Passes (s next : Session) : Prop where
  connected : next.journal.connected = s.journal.connected
  tokens : next.tokens = s.tokens
  issued : s.journal.issued ≤ next.journal.issued
  spent : ∀ number ∈ next.journal.spent,
    number ∈ s.journal.spent ∨ s.journal.issued ≤ number ∧ number < next.journal.issued

/-- The acts that do not connect or disconnect: saying something and forging, which
    connects for itself and undoes that however it ends. -/
theorem exists_passes (s : Session) (act : Act) (hconnect : ∀ verbosity, act ≠ .connect verbosity)
    (hdisconnect : ∀ index, act ≠ .disconnect index) : ∃ next, s.step act = some next ∧
      s.Passes next := by
  -- Forging connects with a new token and spends it, and leaves all else as it was.
  have hforged : ∀ after : Journal, after.connected = s.journal.connected →
      after.issued = s.journal.issued + 1 ∧ after.spent = s.journal.issued :: s.journal.spent →
      s.Passes { s with journal := after } := by
    rintro after hafter ⟨hissued, hspent⟩
    refine ⟨hafter, rfl, by simp only [hissued]; omega, fun number hnumber => ?_⟩
    simp only [hspent, List.mem_cons] at hnumber
    rcases hnumber with rfl | hold
    · exact .inr ⟨Nat.le_refl _, by simp only [hissued]; omega⟩
    · exact .inl hold
  cases act with
  | connect verbosity => exact absurd rfl (hconnect verbosity)
  | disconnect index => exact absurd rfl (hdisconnect index)
  | say m => exact ⟨_, rfl, ⟨rfl, rfl, Nat.le_refl _, fun _ h => .inl h⟩⟩
  | forge source loader renderer settings =>
      exact ⟨_, rfl, hforged _ (connected_forge ..) (issued_forge ..)⟩
  | forgeCallout h source loader renderer settings =>
      exact ⟨_, rfl, hforged _ (connected_forgeCallout ..) (issued_forgeCallout ..)⟩

theorem step_disconnect_eq_some_iff {index : Nat} :
    s.step (.disconnect index) = some next ↔ ∃ token, s.tokens[index]? = some token ∧
      token.number ∉ s.journal.spent ∧ { s with journal := s.journal.restore token } = next := by
  simp only [step, bind, Option.bind_eq_some_iff, Journal.disconnect_eq_some_iff, pure,
    Option.some.injEq]
  constructor
  · rintro ⟨token, htoken, journal, ⟨hspent, rfl⟩, hnext⟩
    exact ⟨token, htoken, hspent, hnext⟩
  · rintro ⟨token, htoken, hspent, hnext⟩
    exact ⟨token, htoken, _, ⟨hspent, rfl⟩, hnext⟩

/-- Whatever is done, tokens are tokens that were given: their numbers are below the one that is
    issued next, and so are those of spent tokens. -/
theorem sound_step (hs : s.Sound) {act : Act} (h : s.step act = some next) : next.Sound := by
  have hpasses := exists_passes s act
  cases act with
  | connect verbosity =>
      cases h
      refine ⟨fun number hnumber => Nat.lt_succ_of_lt (hs.spent number hnumber),
        fun token htoken => ?_⟩
      rcases List.mem_append.1 htoken with hold | hnew
      · exact Nat.lt_succ_of_lt (hs.tokens token hold)
      · rw [List.mem_singleton.1 hnew]
        exact Nat.lt_succ_self _
  | disconnect index =>
      rcases step_disconnect_eq_some_iff.1 h with ⟨token, htoken, -, rfl⟩
      refine ⟨fun number hnumber => ?_, hs.tokens⟩
      rcases List.mem_cons.1 hnumber with rfl | hold
      · exact hs.tokens token (List.mem_of_getElem? htoken)
      · exact hs.spent number hold
  -- All other acts leave the tokens alone, and spend at most one of their own.
  | say m | forge source loader renderer settings | forgeCallout h source loader renderer settings =>
      rcases hpasses nofun nofun with ⟨after, hafter, hpasses⟩
      obtain rfl : after = next := Option.some.inj (hafter.symm.trans h)
      refine ⟨fun number hnumber => ?_, fun token htoken => ?_⟩
      · rcases hpasses.spent number hnumber with hold | hnew
        · exact Nat.lt_of_lt_of_le (hs.spent number hold) hpasses.issued
        · exact hnew.2
      · rw [hpasses.tokens] at htoken
        exact Nat.lt_of_lt_of_le (hs.tokens token htoken) hpasses.issued

theorem sound_run (hs : s.Sound) {acts : List Act} (h : s.run acts = some next) : next.Sound := by
  induction acts generalizing s with
  | nil => exact Option.some.inj h ▸ hs
  | cons act acts ih =>
      rw [run_cons, Option.bind_eq_some_iff] at h
      rcases h with ⟨between, hstep, hrun⟩
      exact ih (sound_step hs hstep) hrun

/-! ## The chain of open connections -/

/-- The tokens of open connections are unspent and remember each what the next one
    connected. Their numbers are below a bound, and below each other. -/
def Chain (s : Session) (outside : Option Int) : Nat → List Opened → Prop
  | _, [] => True
  | bound, innermost :: outer => ∃ token, s.tokens[innermost.index]? = some token ∧
    token.number < bound ∧ token.number ∉ s.journal.spent ∧
    token.previous = Nesting.connected outside outer ∧ s.Chain outside token.number outer

/-- What a session has in common with the account of its open connections. With it a token that
    the account allows to hand back is one that the journal accepts. -/
structure Linked (s : Session) (outside : Option Int) (n : Nesting) : Prop where
  given : n.given = s.tokens.length
  connected : s.journal.connected = Nesting.connected outside n.opened
  chain : s.Chain outside s.journal.issued n.opened

/-- A chain stays one while tokens are added, and others than its own are spent. What is spent
    meanwhile has a number above those of the chain, since it was issued later. -/
theorem Chain.mono {outside : Option Int} {opened : List Opened} {bound wider : Nat}
    (h : s.Chain outside bound opened) (hbound : bound ≤ wider)
    (htokens : ∀ (index : Nat) token, s.tokens[index]? = some token →
      next.tokens[index]? = some token)
    (hspent : ∀ number < bound, number ∈ next.journal.spent → number ∈ s.journal.spent) :
    next.Chain outside wider opened := by
  induction opened generalizing bound wider with
  | nil => trivial
  | cons innermost outer ih =>
      rcases h with ⟨token, htoken, hlt, hunspent, hprevious, houter⟩
      refine ⟨token, htokens _ token htoken, by omega,
        fun h => hunspent (hspent token.number hlt h), hprevious, ?_⟩
      exact ih houter (Nat.le_refl _) fun number hnumber => hspent number (by omega)

/-- What the account allows, the session does, and both stay in step. The account knows nothing of
    tokens but their order; that a token is neither unknown nor spent when its turn comes is what
    the chain says. -/
theorem linked_step (hs : s.Sound) {outside : Option Int} {n m : Nesting}
    (hlinked : s.Linked outside n) {act : Act} (hact : n.step act = some m) :
    ∃ next, s.step act = some next ∧ next.Linked outside m := by
  have hpasses := exists_passes s act
  cases act with
  | connect verbosity =>
      cases hact
      refine ⟨_, rfl, ?_, rfl, ?_⟩
      · simp only [hlinked.given, List.length_append, List.length_singleton]
      · have hadded : ∀ (index : Nat) token, s.tokens[index]? = some token →
            (s.tokens ++ [⟨s.journal.issued, s.journal.connected⟩])[index]? = some token := by
          intro index token h
          rw [List.getElem?_append_left (List.getElem?_eq_some_iff.1 h).1, h]
        -- The new token has a number of its own, above all the others.
        refine ⟨⟨s.journal.issued, s.journal.connected⟩, ?_, Nat.lt_succ_self _, ?_,
          hlinked.connected, ?_⟩
        · rw [hlinked.given]
          exact List.getElem?_concat_length
        · exact fun h => Nat.lt_irrefl _ (hs.spent _ h)
        · exact hlinked.chain.mono (Nat.le_refl _) hadded fun _ _ h => h
  | disconnect index =>
      rcases n with ⟨given, opened⟩
      cases opened with
      | nil => cases hact
      | cons innermost outer =>
          simp only [Nesting.step] at hact
          split at hact
          · rename_i hindex
            subst hindex
            cases hact
            -- The token to give back is the innermost of the chain, so it is there and not spent.
            rcases hlinked.chain with ⟨token, htoken, hlt, hunspent, hprevious, houter⟩
            refine ⟨_, step_disconnect_eq_some_iff.2 ⟨token, htoken, hunspent, rfl⟩,
              hlinked.given, hprevious, ?_⟩
            refine houter.mono (Nat.le_of_lt hlt) (fun _ _ h => h) fun number hnumber h => ?_
            -- Only this token is spent, and those below it have smaller numbers.
            rcases List.mem_cons.1 h with rfl | hold
            · exact absurd hnumber (Nat.lt_irrefl _)
            · exact hold
          · cases hact
  | say m | forge source loader renderer settings | forgeCallout h source loader renderer settings =>
      cases hact
      rcases hpasses nofun nofun with ⟨next, hnext, hpasses⟩
      refine ⟨next, hnext, ?_, ?_, ?_⟩
      · rw [hpasses.tokens, hlinked.given]
      · rw [hpasses.connected, hlinked.connected]
      · refine hlinked.chain.mono hpasses.issued (fun _ _ h => hpasses.tokens ▸ h)
          fun number hnumber h => ?_
        rcases hpasses.spent number h with hold | hnew
        · exact hold
        · omega

theorem linked_run (hs : s.Sound) {outside : Option Int} {n m : Nesting}
    (hlinked : s.Linked outside n) {acts : List Act} (hacts : n.run acts = some m) :
    ∃ next, s.run acts = some next ∧ next.Linked outside m := by
  induction acts generalizing s n with
  | nil => exact ⟨s, rfl, Option.some.inj hacts ▸ hlinked⟩
  | cons act acts ih =>
      rw [Nesting.run_cons, Option.bind_eq_some_iff] at hacts
      rcases hacts with ⟨between, hact, hrest⟩
      rcases linked_step hs hlinked hact with ⟨mid, hmid, hbetween⟩
      rcases ih (sound_step hs hmid) hbetween hrest with ⟨next, hnext, hm⟩
      refine ⟨next, ?_, hm⟩
      rw [run_cons, hmid, Option.bind_some, hnext]

/-- Bracketed acts are never refused and restore the connection, and each message in between is
    shown if, and only if, the innermost open connection admits it.

    What the innermost open connection is can be told from the connects and disconnects alone,
    which is what the account does. The session keeps tokens instead, and the invariant says that
    the open ones form a chain in which each remembers the connection outside of it. -/
theorem run_bracketed {earlier acts : List Act} (hs : ({} : Session).run earlier = some s)
    (hacts : s.Bracketed acts) :
    ∃ after, s.run acts = some after ∧
      after.journal.connected = s.journal.connected ∧
      ∀ before m rest, acts = before ++ .say m :: rest →
        ∃ here n there, s.run before = some here ∧ s.nesting.run before = some n ∧
          here.step (.say m) = some there ∧
          let admitted := ∃ verbosity,
            Nesting.connected s.journal.connected n.opened = some verbosity ∧ m.level ≤ verbosity
          (admitted → there.journal.entries = here.journal.entries ++ [m.text]) ∧
            (¬ admitted → there.journal.entries = here.journal.entries) := by
  -- What came before is arbitrary, but its tokens are tokens that were given.
  have hsound : s.Sound := sound_run sound_empty hs
  have hstart : s.Linked s.journal.connected s.nesting := ⟨rfl, rfl, trivial⟩
  rcases hacts with ⟨given, hgiven⟩
  rcases linked_run hsound hstart hgiven with ⟨after, hafter, hlinked⟩
  refine ⟨after, hafter, hlinked.connected, ?_⟩
  rintro before m rest rfl
  rw [Nesting.run_append, Option.bind_eq_some_iff] at hgiven
  rcases hgiven with ⟨n, hn, -⟩
  -- The acts before the message are a run of their own, at the end of which the account says what
  -- is open.
  rcases linked_run hsound hstart hn with ⟨here, hhere, hlinkedHere⟩
  refine ⟨here, n, _, hhere, hn, rfl, ?_⟩
  intro admitted
  have hshows : here.journal.shows m = true ↔ admitted := by
    unfold Journal.shows Journal.showsAt
    rw [hlinkedHere.connected]
    cases hconnected : Nesting.connected s.journal.connected n.opened with
    | none => simp [admitted, hconnected]
    | some verbosity => simp [admitted, hconnected]
  rw [Journal.entries_play]
  constructor
  · intro h
    rw [List.filter_cons_of_pos (hshows.2 h)]
    rfl
  · intro h
    rw [List.filter_cons_of_neg fun hshown => h (hshows.1 hshown)]
    exact List.append_nil _

/-- Within a connection of the first level: a run that fails between a connection of
    the third and one of nothing. What is said after the failure is shown. -/
theorem run_bracketed_failing :
    let s : Session := ⟨{ connected := some 1, issued := 1 }, [⟨0, none⟩]⟩
    let failing : List Act := [.connect (some 3), .forge "template" (.ofEntries []) none {}]
    let acts := failing ++ .say ⟨2, "shown"⟩ ::
      [.connect none, .say ⟨1, "not shown"⟩, .disconnect 2, .disconnect 1]
    ∃ after here there, s.run acts = some after ∧ after.journal.connected = some 1 ∧
      s.run failing = some here ∧ here.step (.say ⟨2, "shown"⟩) = some there ∧
      there.journal.entries = here.journal.entries ++ ["shown"] := by
  intro s failing acts
  rcases @run_bracketed s [.connect (some 1)] acts rfl ⟨3, rfl⟩ with
    ⟨after, hafter, hconnected, hsaid⟩
  rcases hsaid failing ⟨2, "shown"⟩ _ rfl with ⟨here, n, there, hhere, hn, hthere, hshown, -⟩
  obtain rfl : ⟨2, [⟨1, some 3⟩]⟩ = n := Option.some.inj hn
  exact ⟨after, here, there, hafter, hconnected, hhere, hthere, hshown ⟨3, rfl, by decide⟩⟩

end Session

end Stencil
