import LinkLedger.Text.Mapping

/-!
# Case folding

Texts that differ in the case of their letters only have the same folded form.
-/

namespace LinkLedger
namespace Text

/-- Unicode's full case folding: the characters that it changes, with their images. -/
def foldedCharacters : Mapping :=
  Mapping.ofLines
    ["1t:p=2p 2i=qk a:m=68 1:6=6w 0=37+37 w;n=75 1=2x+lj 1;2=8j 2;7=8q 1=jg+32 0;m=97 1=73 0;2=ai",
     "1=37 1=gj 0;1=ar 1=gk 0=aw 1:1=gm 0=b0 2=d9 0=gp 0=gr 0=b6 1=gw 0=gz 1=h5 0=h4 0=bd 3=hb",
     "0=he 1=hh 0;2=bl 1=hs 0=bs 1=hv 2=bx 1=i0 0=c0 1:1=i2 0;1=c4 1=ia 0=c9 3=cd 7=cm 0=cm 1=cp",
     "0=cp 1=cs 0;8=cs 2;8=db 1=2y+lo 0=dv 0;1=dv 1=b9 0=cf 0;j=e1 1=bi 1;8=f7 7=8rp 0=fw 1=be",
     "0=8rq 2=g2 1=ao 0=i1 0=i4 0;4=g7 6u=qh 16;1=oh 3=on 8=s3 6=q4 1:2=q5 1=r0 1:1=r1 0=qh+lk+ld",
     "0:g=q9 1:8=qr 4=qt+lk+ld h=qr c=rb 0=qa 0=qg 3=qu 0=qo 1;b=rd 1=qi 0=qp 2=qg 0=qd 1=s8 1=s2",
     "0=sb 2:2=or 0:f=uo 0:v=ts 1c;g=v5 9;q=wb 1=y7 0;6=xu 2;1b=y9 2:11=129 1c=12d+136 26w:11=8w0",
     "1=8x3 5=8x9 mi:5=3xs 1oi=tu 0=tw 0=u6 0:1=u9 0=ua 0=ui 0=v7 0=wuj 7:16=3bk 2:2=3ct 8w;22=5xd",
     "1=2w+mp 0=38+lk 0=3b+lm 0=3d+lm 0=2p+ji 0=601 2=37+37 1;1b=61t 9:7=64g 8:5=64w a:7=65c",
     "8:7=65s 8:5=668 2=qt+lv 1=qt+lv+lc 1=qt+lv+ld 1=qt+lv+n6 2;3=66p 8:7=674 g=64g+qh 0=64h+qh",
     "0=64i+qh 0=64j+qh 0=64k+qh 0=64l+qh 0=64m+qh 0=64n+qh 0=64g+qh 0=64h+qh 0=64i+qh 0=64j+qh",
     "0=64k+qh 0=64l+qh 0=64m+qh 0=64n+qh 0=65c+qh 0=65d+qh 0=65e+qh 0=65f+qh 0=65g+qh 0=65h+qh",
     "0=65i+qh 0=65j+qh 0=65c+qh 0=65d+qh 0=65e+qh 0=65f+qh 0=65g+qh 0=65h+qh 0=65i+qh 0=65j+qh",
     "0=674+qh 0=675+qh 0=676+qh 0=677+qh 0=678+qh 0=679+qh 0=67a+qh 0=67b+qh 0=674+qh 0=675+qh",
     "0=676+qh 0=677+qh 0=678+qh 0=679+qh 0=67a+qh 0=67b+qh 2=67k+qh 0=q9+qh 0=q4+qh 1=q9+n6",
     "0=q9+n6+qh 0:1=69c 0:1=67k 0=q9+qh 1=qh 3=67o+qh 0=qf+qh 0=q6+qh 1=qf+n6 0=qf+n6+qh 0:3=67m",
     "0=qf+qh 5=qh+lk+lc 0=qh+lk+ld 2=qh+n6 0=qh+lk+n6 0:1=6a8 0:1=67q 6=qt+lk+lc 0=qt+lk+ld",
     "0=qp+lv 1=qt+n6 0=qt+lk+n6 0:1=6ao 0:1=67u 0=6at 5=67w+qh 0=qx+qh 0=r2+qh 1=qx+n6 0=qx+n6+qh",
     "0:1=67s 0:1=67w 0=qx+qh 89=qx 3=2z 0=6d 6=6ku 19:f=6ls j=6mc mq:p=79s 1f4:1b=8q8 1c=8rl 1=h7",
     "0=5tp 0=hp 2;2=8rs 1=gh 0=hd 0=gg 0=gi 1=8s3 2=8s6 8:1=fz 0;1d=8sh 8;1=8vg 4=8vn nyl;m=wu9",
     "j;d=ww1 3r;6=x0j 3;u=x0z a;1=x2y 1=5tl 0;4=x33 4=x3g 1=h1 2;1=x3l 3;9=x3r 1=h2 0=gs 0=gx",
     "0=h8 0=h6 1=im 0=hz 0=il 0=xub 0;7=x4l 1=x3o 0=hu 0=5u6 0;1=x54 6=x5d 5;1=x5j s=x6e",
     "oq:27=3vk fnk=2u+2u 0=2u+2x 0=2u+30 0=2u+2u+2x 0=2u+2u+30 0=37+38 0=37+38 c=12s+12u",
     "0=12s+12d 0=12s+12j 0=132+12u 0=12s+12l sp:p=1ef5 xx:13=1fe0 3s:z=1fiw 4c:a=1fo7 1:e=1foj",
     "1:6=1foz 1:1=1fp7 1d6:1e=1h34 2ct:v=1jgg gw0:v=20dc o80:x=2oma"]

/-- A text without distinctions of case. -/
def foldCase (cs : List Char) : List Char :=
  cs.flatMap fun c => (foldedCharacters.image? c).getD [c]

end Text
end LinkLedger
