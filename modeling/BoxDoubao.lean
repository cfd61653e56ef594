import BoxDoubao.Lib.WebSocket
import BoxDoubao.Lib.CSearch
import BoxDoubao.Transport.WsState
import BoxDoubao.Transport.WsWrite
import BoxDoubao.Transport.WsRead
import BoxDoubao.Transport.WsStream
import BoxDoubao.Transport.WsFaults
import BoxDoubao.Transport.WsConnect
import BoxDoubao.Transport.WsHandshake
import BoxDoubao.Protocol.Parse
import BoxDoubao.Protocol.RoundTrip
import BoxDoubao.Client.EventHandler
import BoxDoubao.Client.Assembly
import BoxDoubao.Client.Fragmentation
import BoxDoubao.Client.Reconnect
import BoxDoubao.App.ReplyText
import BoxDoubao.Lib.Machine
import BoxDoubao.App.State
import BoxDoubao.App.MainFsm
import BoxDoubao.App.Receive
import BoxDoubao.App.Firmware
import BoxDoubao.App.Steps
import BoxDoubao.App.Speaking
import BoxDoubao.App.Session
import BoxDoubao.App.Ready
import BoxDoubao.App.Connection
import BoxDoubao.App.Upload
import BoxDoubao.Client.BuildCommand
import BoxDoubao.Lib.PyBytes
import BoxDoubao.PyDemo.ParseResponse
import BoxDoubao.Lib.Trap
import BoxDoubao.Protocol.Safety
import BoxDoubao.Protocol.Acceptance
import BoxDoubao.Lib.GzipFormat
import BoxDoubao.Protocol.GzipCompress
import BoxDoubao.Protocol.GzipRoundTrip
import BoxDoubao.Lib.Crc
import BoxDoubao.Protocol.Checksum
import BoxDoubao.Desktop.SendQueue
import BoxDoubao.Desktop.SendSystem
import BoxDoubao.Desktop.Session
import BoxDoubao.Desktop.Shutdown
import BoxDoubao.Audio.OpusProcessor
import BoxDoubao.Audio.Cutting
import BoxDoubao.App.BargeIn
import BoxDoubao.Audio.Headers
import BoxDoubao.Client.Discard
import BoxDoubao.Desktop.Receive
import BoxDoubao.Lib.Resource
import BoxDoubao.App.Resources
import BoxDoubao.Desktop.StartUp
import BoxDoubao.Desktop.CleanUp
import BoxDoubao.Audio.EchoReference
import BoxDoubao.Lib.JsonText
import BoxDoubao.Desktop.ChatQuery
import BoxDoubao.App.DisplayedText
import BoxDoubao.Lib.LinkedQueue
import BoxDoubao.Desktop.PlayQueue
import BoxDoubao.Desktop.Decompress
import BoxDoubao.Lib.JsonPrint
import BoxDoubao.Protocol.Request
import BoxDoubao.Client.StartSession
import BoxDoubao.Client.Requests
import BoxDoubao.Desktop.Requests
import BoxDoubao.Desktop.Parse
import BoxDoubao.PyDemo.JsonDumps
import BoxDoubao.PyDemo.Requests
import BoxDoubao.PyDemo.DialogSession
import BoxDoubao.PyDemo.DialogOrder
import BoxDoubao.PyDemo.DialogReceive
