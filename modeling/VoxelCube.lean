import VoxelCube.Bench.Sample
import VoxelCube.Config.Binary
import VoxelCube.MainLoop
import VoxelCube.Proofs.Config.Stored
import VoxelCube.Proofs.Crc.PolynomialCode
import VoxelCube.Proofs.Device.Durability
import VoxelCube.Proofs.Device.Reboot
import VoxelCube.Proofs.Device.Restart
import VoxelCube.Proofs.Device.Snapshot
import VoxelCube.Proofs.Device.TextChange
import VoxelCube.Proofs.Device.Twins
import VoxelCube.Proofs.Display.Filling
import VoxelCube.Proofs.Display.Painting
import VoxelCube.Proofs.Link.Bounds
import VoxelCube.Proofs.Link.Damage
import VoxelCube.Proofs.Link.Delivery
import VoxelCube.Proofs.Link.Forgetting
import VoxelCube.Proofs.Link.Listening
import VoxelCube.Proofs.Link.Progress
import VoxelCube.Proofs.Link.Replies
import VoxelCube.Proofs.Link.Verdicts
import VoxelCube.Proofs.MainLoop.Beginning
import VoxelCube.Proofs.MainLoop.Expiry
import VoxelCube.Proofs.MainLoop.Pacing
import VoxelCube.Proofs.MainLoop.Power
import VoxelCube.Proofs.MainLoop.Requests
import VoxelCube.Proofs.MainLoop.Showing
import VoxelCube.Proofs.MainLoop.Tearing
import VoxelCube.Proofs.Message.Entries
import VoxelCube.Proofs.Message.Extent
import VoxelCube.Proofs.Message.Packets
import VoxelCube.Proofs.Message.Payload
import VoxelCube.Proofs.Message.RoundTrip
import VoxelCube.Proofs.Message.Spelling
import VoxelCube.Proofs.Playlist.Cycling
import VoxelCube.Proofs.Reply.Changes
import VoxelCube.Proofs.Reply.Conversation
import VoxelCube.Proofs.Reply.Failures
import VoxelCube.Proofs.Reply.Footprint
import VoxelCube.Proofs.Reply.ReadBack
import VoxelCube.Proofs.Reply.Reading
import VoxelCube.Proofs.Reply.Reordering
import VoxelCube.Proofs.Reply.Repetition
import VoxelCube.Proofs.Reply.Reports
import VoxelCube.Proofs.Reply.Selected
import VoxelCube.Proofs.Reply.TimeReport
import VoxelCube.Proofs.Reply.Unwanted
import VoxelCube.Proofs.Reply.Writing
