import Overlay.Member.Host
import Overlay.Net.SocketAddress

/-!
# The table of peers

A peer is a connection to a host together with the network behind it. Two connections are the same
only when they have the same number, whatever they are connected to. The table keeps one peer for
each network: `RouteTable.insert` displaces the peer that had the network before.

A destination belongs to a peer when it agrees with the peer's network on the bits that name it. When
several networks own a destination, `lookup` gives the first of them in the order of the table; the
networks that share an address with a given one are those in `overlapping`.
-/

namespace Overlay

/-- A connection to a host. -/
structure Peer where
  /-- The number of the connection. -/
  id : Nat
  /-- The network behind the host. -/
  network : Subnet
  /-- The host as it was given. -/
  host : Host
  /-- The address that datagrams go to. -/
  remote : SocketAddress
deriving DecidableEq

/-- Does the address belong to the network of the peer? -/
def Peer.owns (p : Peer) (a : Ipv4) : Bool := p.network.owns a

/-- The peers, at most one for each network. -/
structure RouteTable where
  /-- The peers in the order in which they are looked through. -/
  peers : List Peer
  /-- No network comes twice. -/
  nodup : (peers.map Peer.network).Nodup

namespace RouteTable

/-- The table without peers. -/
def empty : RouteTable := ⟨[], List.nodup_nil⟩

instance : Inhabited RouteTable := ⟨empty⟩

/-- The networks of the peers. -/
def networks (t : RouteTable) : List Subnet := t.peers.map Peer.network

/-- The number of peers. -/
def size (t : RouteTable) : Nat := t.peers.length

/-- Is there no peer? -/
def isEmpty (t : RouteTable) : Bool := t.peers.isEmpty

/-- The peer of a network. -/
def get? (t : RouteTable) (n : Subnet) : Option Peer := t.peers.find? (fun p => p.network = n)

/-- The table without the peer of a network. -/
def erase (t : RouteTable) (n : Subnet) : RouteTable where
  peers := t.peers.filter (fun p => p.network ≠ n)
  nodup := List.Nodup.sublist (List.Sublist.map _ List.filter_sublist) t.nodup

/-- The peer that an insertion displaces, and the table after it. -/
def insert (t : RouteTable) (p : Peer) : Option Peer × RouteTable :=
  (t.get? p.network,
    { peers := p :: (t.erase p.network).peers
      nodup := by
        rw [List.map_cons, List.nodup_cons]
        refine ⟨?_, (t.erase p.network).nodup⟩
        simp [erase] })

/-- The peer that a removal takes away, and the table after it. -/
def remove (t : RouteTable) (n : Subnet) : Option Peer × RouteTable := (t.get? n, t.erase n)

/-- Removes the peer of a network only if it is the given connection. -/
def removeSame (t : RouteTable) (n : Subnet) (p : Peer) : Option Peer × RouteTable :=
  match t.get? n with
  | some q => if q.id = p.id then t.remove n else (none, t)
  | none => (none, t)

/-- The first peer whose network owns the address. -/
def lookup (t : RouteTable) (a : Ipv4) : Option Peer := t.peers.find? (·.owns a)

/-- The networks, other than `n`, that contain `n` or are contained in it. -/
def overlapping (t : RouteTable) (n : Subnet) : List Subnet :=
  t.networks.filter fun m => m ≠ n && (m.contains n || n.contains m)

end RouteTable

end Overlay
