import Vtest.Properties.Payload

/-! # Errors of `SUBMIT_CMD2`

`vtest_submit_cmd2` checks each batch just before submitting it, so an error leaves the
effects of every batch before it: their commands reached `virgl_renderer_submit_cmd`,
their unqueued syncs were signaled and their queued submits wait on their fences. Only a
frame rejected before its first submission changes nothing. -/

namespace Vtest

end Vtest
