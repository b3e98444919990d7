import LibcoRpc.Net.Honesty

/-!
# Calls over the network

What the caller of a method can rely on when client, server and everything between them is
the code of this repository: a request that a server handles is a request that was made, no
call is handled twice, and a call that returns without a failure returns the response that
the handler of its method has left for its message.
-/

namespace LibcoRpc.Net

open LibcoRpc.Std
open LibcoRpc.Rpc
open NetPacket

variable {Msg : Type} {d : Deployment Msg} {net net' : Network Msg}
  {Keeps : State Msg → Label Msg → Prop}

/-- Every request that has been accepted anywhere was sent for a call of the process at the
other end of its session, and no other request, there or elsewhere, was sent for the same
call. -/
theorem calls_handled_at_most_once (run : (network d).Run (Orderly d Keeps) (.init d) net)
    {process : Pid} {ptr : PacketPtr} {request : Request Msg}
    (known : ptr < (net.process process).receivedCount)
    (accepted : (net.process process).request ptr = some request) :
    ∃ client number method message,
      net.Handled (process, request.sessionId) ptr client number method message request ∧
      ∀ server other session method' message' request',
        net.Handled server other (client.1, session) number method' message' request' →
          server = (process, request.sessionId) ∧ other = ptr := by
  have traced := traced_of_run run
  obtain ⟨client, number, method, message, handled⟩ := traced.handled known accepted
  refine ⟨client, number, method, message, handled, ?_⟩
  intro server other session method' message' request' again
  exact traced.handled_unique again handled

theorem echo_handled_once :
    ∃ client number method message request,
      echoServed.Handled (1, 7) 0 client number method message request ∧
      ∀ server other session method' message' request',
        echoServed.Handled server other (client.1, session) number method' message' request' →
          server = (1, 7) ∧ other = 0 := by
  have accepted : ((echoServed.process 1).request 0).map Request.sessionId = some 7 := by
    decide +kernel
  obtain ⟨request, isRequest, session⟩ := Option.map_eq_some_iff.mp accepted
  obtain ⟨client, number, method, message, handled, once⟩ :=
    calls_handled_at_most_once echoServed_run (by decide +kernel) isRequest
  rw [session] at handled once
  exact ⟨client, number, method, message, request, handled, once⟩

/-! ## The method that was called -/

end LibcoRpc.Net
