import PpqTee.Lib.Transition
import PpqTee.Lib.Incremental
import PpqTee.Lib.BigEndian
import PpqTee.Lib.Splitting
import PpqTee.Lib.Unfolding
import PpqTee.Ehbp.Stream
import PpqTee.Ehbp.Delivery
import PpqTee.Client
import PpqTee.Ehbp.Wire
import PpqTee.Ehbp.Buffer
import PpqTee.Ehbp.RoundTrip
import PpqTee.Ehbp.Nonces
import PpqTee.Ehbp.Lockstep
import PpqTee.Ehbp.Framing
import PpqTee.Ehbp.Layout
import PpqTee.Client.Reading
import PpqTee.Client.Agreement
import PpqTee.Client.Truncation
import PpqTee.Proxy.Attested
import PpqTee.Proxy.Coherent
import PpqTee.Proxy.Refresh
import PpqTee.Proxy.Overtaking
import PpqTee.Attest.Crates
import PpqTee.Attest.Report
import PpqTee.Attest.Vcek
import PpqTee.Attest.Bundle
import PpqTee.Attest.Labels
import PpqTee.Attest.Signed
import PpqTee.Attest.Freshness
import PpqTee.Client.Build
import PpqTee.Client.Completion
import PpqTee.Proxy.Retry
import PpqTee.Proxy.Server
import PpqTee.Proxy.Fidelity
import PpqTee.Proxy.Relay
import PpqTee.Client.Cap
import PpqTee.Client.Rig
import PpqTee.Client.Origin
import PpqTee.Client.Enclave
import PpqTee.Client.Sessions
import PpqTee.Lib.Infinite
import PpqTee.Proxy.Progress
import PpqTee.Lib.Simulation
import PpqTee.Proxy.Atomic
import PpqTee.Attest.Exact
import PpqTee.Client.Backend
import PpqTee.Proxy.Lineage
import PpqTee.Proxy.Daemon
import PpqTee.Proxy.Redeploy
import PpqTee.Client.Catalogue
import PpqTee.Proxy.Service
import PpqTee.Proxy.Exchange
import PpqTee.Client.Fetch
import PpqTee.Proxy.Models
import PpqTee.Proxy.Bound
import PpqTee.Client.Redirects
