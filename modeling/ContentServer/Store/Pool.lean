import ContentServer.Json.Struct
import ContentServer.Json.Value

namespace ContentServer

structure PoolSettings where
  maxConnections : UInt32 := 10
  /-- How long to wait for a connection, in milliseconds. -/
  connectionTimeout : UInt64 := 30000
  /-- How long to wait for a lock, in milliseconds. -/
  busyTimeout : UInt32 := 5000
  enableWal : Bool := true
  deriving DecidableEq, Repr

namespace PoolSettings

open Json

structure Partial where
  maxConnections : Option UInt32 := none
  connectionTimeout : Option UInt64 := none
  busyTimeout : Option UInt32 := none
  enableWal : Option Bool := none

def fields : List (Member Partial) :=
  [.defaulted "max_connections" (·.maxConnections)
      (fun s a => { s with maxConnections := some a }) .uint32,
    .defaulted "connection_timeout_ms" (·.connectionTimeout)
      (fun s a => { s with connectionTimeout := some a }) .uint64,
    .defaulted "busy_timeout_ms" (·.busyTimeout) (fun s a => { s with busyTimeout := some a }) .uint32,
    .defaulted "enable_wal" (·.enableWal) (fun s a => { s with enableWal := some a }) .bool]

def Partial.finish (s : Partial) : PoolSettings :=
  let d : PoolSettings := {}
  { maxConnections := s.maxConnections.getD d.maxConnections
    connectionTimeout := s.connectionTimeout.getD d.connectionTimeout
    busyTimeout := s.busyTimeout.getD d.busyTimeout
    enableWal := s.enableWal.getD d.enableWal }

def reader : Reader PoolSettings :=
  .struct "PoolSettings" fields {} fun s => .ok s.finish

def toJson (s : PoolSettings) : Json :=
  .object
    [("max_connections", .int s.maxConnections.toNat),
      ("connection_timeout_ms", .int s.connectionTimeout.toNat),
      ("busy_timeout_ms", .int s.busyTimeout.toNat),
      ("enable_wal", .bool s.enableWal)]

end PoolSettings

end ContentServer
