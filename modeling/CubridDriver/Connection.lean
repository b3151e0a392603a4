import CubridDriver.Types
import CubridDriver.Lib.Outcome

/-!
# Connections and clients

The state of a client: an optional connection, the auto-commit mode and the
negotiated protocol version. A client whose connection has been taken is closed,
for good. The socket is a parameter: what can be read from it is said where it
matters.
-/

namespace CubridDriver

/-- A connection to a CAS process, over a socket `τ`. -/
structure Connection (τ : Type) where
  /-- The socket. -/
  stream : τ
  /-- The CAS info token of the last response. -/
  casInfo : CasInfo

/-- A CUBRID database client. -/
structure Client (τ : Type) where
  /-- The connection, unless the client is closed. -/
  conn : Option (Connection τ)
  /-- The auto-commit mode. -/
  autoCommit : Bool
  /-- The negotiated protocol version. -/
  protoVersion : Int32

namespace Client

variable {τ : Type}

/-- Check if the connection is closed. -/
def isClosed (client : Client τ) : Bool := client.conn.isNone

/-- Close the connection gracefully. The connection is taken, so whatever becomes of
the last request it sends, the client is left without one. -/
def close (client : Client τ) : Client τ := { client with conn := none }

@[simp] theorem isClosed_close (client : Client τ) : client.close.isClosed = true := rfl

/-- A client over a socket it has just been connected by. -/
def connected (stream : τ) : Client τ := ⟨some ⟨stream, (0, 0, 0, 0)⟩, true, 0⟩

end Client

end CubridDriver
